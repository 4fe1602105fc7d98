import PfcpGenerator.Session.SeidAllocator

/-!
# Configuration defaults and validation

A model of `SetDefaults` (`internal/config/config.go`) and `Config.Validate` (the `config`
package's validation, `internal/pfcp/decoder.go`). `Validate` makes eleven checks in a fixed
order, collects the message of every check that fails, and returns them joined under one
heading. Outside dry-run mode, `run` sends nothing unless it returns `nil`.

Three checks read the world through Go's library: `net.ParseIP`, `os.Stat` with
`os.IsNotExist`, and `net.ParseCIDR`. Their answers are a `Library`, so every statement below
holds for every host and every file system. `%q` is `strconv.Quote`, modelled by `quote`.

Go's `int` fields are `ℤ`: the checks only compare them, so this is exact on every 64-bit value.

## Main results

* `error_names_field`: every message begins with the key of the field its check reads, except
  the messages for a missing pcap file and an unparsable UE pool, which name the value only.
* `validate_setDefaults`: the defaults alone fail exactly the four checks on the fields that
  `SetDefaults` leaves empty; every default passes its own check.
-/

namespace PfcpGenerator

/-! ## The configuration -/

/-- `SMFConfig`, without `NodeID`, which no modelled function reads. -/
structure SMFConfig where
  address : String
  port : ℤ

/-- `UPFConfig`. -/
structure UPFConfig where
  address : String
  port : ℤ

/-- `AssociationConfig`. -/
structure AssociationConfig where
  enabled : Bool

/-- `SessionConfig`. -/
structure SessionConfig where
  seidStart : UInt64
  seidStrategy : String
  ueIPPool : String
  stripIPv6 : Bool
  cleanupOnExit : Bool

/-- `TimingConfig`. -/
structure TimingConfig where
  messageIntervalMs : ℤ
  responseTimeoutMs : ℤ
  maxRetries : ℤ

/-- `InputConfig`. -/
structure InputConfig where
  pcapFile : String

/-- `LoggingConfig`, without `File`, which no modelled function reads. -/
structure LoggingConfig where
  level : String
  console : Bool

/-- `StatsConfig`, without `ExportFile`, which no modelled function reads. -/
structure StatsConfig where
  enabled : Bool
  reportIntervalSec : ℤ

/-- `Config`. -/
structure Config where
  smf : SMFConfig
  upf : UPFConfig
  association : AssociationConfig
  session : SessionConfig
  timing : TimingConfig
  input : InputConfig
  logging : LoggingConfig
  stats : StatsConfig

/-- The configuration `LoadWithViper` returns when only `SetDefaults` has set keys: every key it
names has its default, every other field Go's zero value. -/
def setDefaults : Config where
  smf := { address := "", port := 8805 }
  upf := { address := "", port := 8805 }
  association := { enabled := true }
  session :=
    { seidStart := 1, seidStrategy := "sequential", ueIPPool := "", stripIPv6 := true,
      cleanupOnExit := false }
  timing := { messageIntervalMs := 100, responseTimeoutMs := 5000, maxRetries := 3 }
  input := { pcapFile := "" }
  logging := { level := "info", console := true }
  stats := { enabled := true, reportIntervalSec := 10 }

/-! ## What Go's library answers -/

/-- The answers of Go's library to the checks of `Validate` that parse text or read the host. -/
structure Library where
  /-- `net.ParseIP(s) != nil`. -/
  parsesIP : String → Bool
  /-- `net.ParseIP("")` is `nil`. -/
  parsesIP_empty : parsesIP "" = false
  /-- `os.IsNotExist(err)` for the error of `os.Stat(path)`; any other error, a denied
  permission say, passes the check. -/
  notExist : String → Bool
  /-- `net.ParseCIDR(s)` returns no error. Every error it returns is a `*net.ParseError` of
  type `"CIDR address"` on the whole text. -/
  parsesCIDR : String → Bool
  /-- The Unicode tables `strconv.IsPrint` reads for runes above U+00FF. -/
  isPrintTable : Char → Bool

/-- `strconv.IsPrint`: its Latin-1 rule, and its tables above U+00FF. -/
def isPrint (isPrintTable : Char → Bool) (r : Char) : Bool :=
  if r.toNat ≤ 0xFF then
    (0x20 ≤ r.toNat && r.toNat ≤ 0x7E) || (0xA1 ≤ r.toNat && r.toNat != 0xAD)
  else isPrintTable r

/-- The `width` low hexadecimal digits of `n` in `lowerhex`, the most significant first. -/
def hexDigits (n width : ℕ) : List Char :=
  (List.range width).reverse.map fun i => Nat.digitChar (n / 16 ^ i % 16)

/-- `appendEscapedRune` with a double quote as the quote and neither `ASCIIonly` nor
`graphicOnly`. A Lean character is always a valid rune, so the `utf8.ValidRune` branch is never
taken. -/
def escapedRune (isPrintTable : Char → Bool) (r : Char) : List Char :=
  if r = '"' ∨ r = '\\' then ['\\', r]
  else if isPrint isPrintTable r then [r]
  else
    match r.toNat with
    | 0x07 => ['\\', 'a']
    | 0x08 => ['\\', 'b']
    | 0x0C => ['\\', 'f']
    | 0x0A => ['\\', 'n']
    | 0x0D => ['\\', 'r']
    | 0x09 => ['\\', 't']
    | 0x0B => ['\\', 'v']
    | n =>
      if n < 0x20 ∨ n = 0x7F then '\\' :: 'x' :: hexDigits n 2
      else if n < 0x10000 then '\\' :: 'u' :: hexDigits n 4
      else '\\' :: 'U' :: hexDigits n 8

/-- `strconv.Quote`, which `%q` prints a string with. -/
def quote (isPrintTable : Char → Bool) (s : String) : String :=
  String.mk ('"' :: s.toList.flatMap (escapedRune isPrintTable) ++ ['"'])

example : quote (fun _ => true) "a\"b\n\x7f" = "\"a\\\"b\\n\\x7f\"" := by decide

@[simp]
theorem quote_empty (isPrintTable : Char → Bool) : quote isPrintTable "" = "\"\"" := rfl

/-! ## `Validate` -/

/-- The keys of `validLevels`. -/
def validLevels : List String := ["debug", "info", "warn", "error"]

/-- The address check `Validate` makes for the SMF and for the UPF. -/
def addressError (lib : Library) (key address : String) : Option String :=
  if !lib.parsesIP address then
    some (key ++ " must be a valid IP address, got " ++ quote lib.isPrintTable address)
  else none

/-- The port check `Validate` makes for the SMF and for the UPF. -/
def portError (key : String) (port : ℤ) : Option String :=
  if port ≤ 0 ∨ port > 65535 then
    some (key ++ " must be between 1 and 65535, got " ++ toString port)
  else none

/-- The checks of `Validate`. -/
inductive Check
  | smfAddress | smfPort | upfAddress | upfPort | pcapFile | ueIPPool | seidStart
  | seidStrategy | responseTimeout | maxRetries | logLevel
  deriving DecidableEq, Repr

namespace Check

/-- The checks in the order `Validate` makes them. -/
def all : List Check :=
  [smfAddress, smfPort, upfAddress, upfPort, pcapFile, ueIPPool, seidStart, seidStrategy,
    responseTimeout, maxRetries, logLevel]

/-- The configuration key of the field each check reads. -/
def field : Check → String
  | smfAddress => "smf.address"
  | smfPort => "smf.port"
  | upfAddress => "upf.address"
  | upfPort => "upf.port"
  | pcapFile => "input.pcap_file"
  | ueIPPool => "session.ue_ip_pool"
  | seidStart => "session.seid_start"
  | seidStrategy => "session.seid_strategy"
  | responseTimeout => "timing.response_timeout_ms"
  | maxRetries => "timing.max_retries"
  | logLevel => "logging.level"

/-- The message each check appends to `errs`, if it fails. -/
def error (lib : Library) (c : Config) : Check → Option String
  | smfAddress => addressError lib "smf.address" c.smf.address
  | smfPort => portError "smf.port" c.smf.port
  | upfAddress => addressError lib "upf.address" c.upf.address
  | upfPort => portError "upf.port" c.upf.port
  | pcapFile =>
    if c.input.pcapFile = "" then some "input.pcap_file must be specified"
    else if lib.notExist c.input.pcapFile then some ("pcap file not found: " ++ c.input.pcapFile)
    else none
  | ueIPPool =>
    if c.session.ueIPPool = "" then some "session.ue_ip_pool must be specified"
    else if !lib.parsesCIDR c.session.ueIPPool then
      some ("invalid UE IP pool CIDR " ++ quote lib.isPrintTable c.session.ueIPPool ++
        ": invalid CIDR address: " ++ c.session.ueIPPool)
    else none
  | seidStart => if c.session.seidStart = 0 then some "session.seid_start must be > 0" else none
  | seidStrategy =>
    if c.session.seidStrategy ≠ "sequential" ∧ c.session.seidStrategy ≠ "random" then
      some ("session.seid_strategy must be 'sequential' or 'random', got " ++
        quote lib.isPrintTable c.session.seidStrategy)
    else none
  | responseTimeout =>
    if c.timing.responseTimeoutMs ≤ 0 then some "timing.response_timeout_ms must be > 0"
    else none
  | maxRetries => if c.timing.maxRetries < 0 then some "timing.max_retries must be >= 0" else none
  | logLevel =>
    if !validLevels.contains c.logging.level then
      some ("logging.level must be one of debug/info/warn/error, got " ++
        quote lib.isPrintTable c.logging.level)
    else none

end Check

/-- `Validate`: `none` is a `nil` error. -/
def Config.validate (lib : Library) (c : Config) : Option String :=
  let errs := Check.all.filterMap (·.error lib c)
  if errs.length > 0 then some ("configuration errors:\n  - " ++ "\n  - ".intercalate errs)
  else none

namespace Config

variable (lib : Library) (c : Config)

/-- A message whose characters begin with those of `key` is `key` followed by the rest. -/
private theorem exists_rest_of_startsWith {key msg : String} (h : key.data <+: msg.data) :
    ∃ rest, msg = key ++ rest :=
  let ⟨t, ht⟩ := h
  ⟨⟨t⟩, String.ext (by simpa using ht.symm)⟩

/-- Every message `Validate` reports begins with the key of the field its check reads, except
two: a pcap file `os.Stat` reports missing, and a UE pool `net.ParseCIDR` rejects, are reported
by their value alone. -/
theorem error_names_field (k : Check) {e : String} (h : k.error lib c = some e) :
    (∃ rest, e = k.field ++ rest) ∨
      (k = .pcapFile ∧ e = "pcap file not found: " ++ c.input.pcapFile) ∨
      (k = .ueIPPool ∧
        e = "invalid UE IP pool CIDR " ++ quote lib.isPrintTable c.session.ueIPPool ++
          ": invalid CIDR address: " ++ c.session.ueIPPool) := by
  cases k <;> simp only [Check.error, addressError, portError] at h <;> split_ifs at h <;>
    cases h
  all_goals first
    | exact .inr (.inl ⟨rfl, rfl⟩)
    | exact .inr (.inr ⟨rfl, rfl⟩)
    | exact .inl (exists_rest_of_startsWith (by decide))
    | exact .inl (exists_rest_of_startsWith
        ((List.prefix_append _ _).trans (List.prefix_append _ _)))

/-- With only the defaults set, `Validate` fails on the SMF and UPF addresses, the pcap file and
the UE pool, the four fields `SetDefaults` gives no value, and on nothing else: every default
passes its own check. -/
theorem validate_setDefaults :
    setDefaults.validate lib =
      some ("configuration errors:\n" ++
        "  - smf.address must be a valid IP address, got \"\"\n" ++
        "  - upf.address must be a valid IP address, got \"\"\n" ++
        "  - input.pcap_file must be specified\n" ++
        "  - session.ue_ip_pool must be specified") := by
  simp [validate, Check.all, Check.error, addressError, portError, setDefaults, lib.parsesIP_empty,
    validLevels]
  rfl

end Config

end PfcpGenerator
