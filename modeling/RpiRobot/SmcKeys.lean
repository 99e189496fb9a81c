import Mathlib.Data.List.TakeWhile
import Mathlib.Data.Rat.Defs
import Mathlib.Tactic.IntervalCases
import Mathlib.Tactic.Linarith

/-!
# Keys and values of the SMC

The sensors of a Mac are asked for by keys of four characters, which the driver takes as one
number. The number is put together from signed characters, and taken apart into bytes again, so
not every name comes back as it was; but different names have different numbers.

A temperature is a number of 16 bits with 8 of them after the point, high byte first.
-/

namespace SmcKeys

-- Without this the unifier tries to compute the remainder.
attribute [local irreducible] Int.bmod

/-! ## Codes -/

/-- A `char`, which is signed. -/
abbrev SChar := { c : Int // -128 ≤ c ∧ c < 128 }

def SChar.toUnsigned (c : SChar) : Nat := (c.val % 256).toNat

/-- The `char` of a byte. -/
def toChar (n : Nat) : SChar :=
  ⟨Int.bmod n 256, by
    have hlow := Int.le_bmod (x := n) (m := 256) (by decide)
    have hhigh := Int.bmod_lt (x := n) (m := 256) (by decide)
    omega⟩

/-- The loop of `_strtoul`. A `UInt32` is a number modulo `2 ^ 32`. -/
def strtoulFrom (base : Nat) : List SChar → Nat → Nat
  | [], total => total
  | c :: rest, total =>
    let shifted := c.val * 2 ^ (8 * rest.length)
    let term := if base = 16 then shifted else shifted % 256
    strtoulFrom base rest ((total + term) % 2 ^ 32).toNat

def strtoul (str : List SChar) (base : Nat) : Nat := strtoulFrom base str 0

/-- The four characters that `sprintf` writes. -/
def ultostr (val : Nat) : List SChar :=
  [toChar (val / 2 ^ 24), toChar (val / 2 ^ 16), toChar (val / 2 ^ 8), toChar val]

/-- A name of four characters. -/
structure Key where
  c₀ : SChar
  c₁ : SChar
  c₂ : SChar
  c₃ : SChar
  deriving DecidableEq

def Key.toList (k : Key) : List SChar := [k.c₀, k.c₁, k.c₂, k.c₃]

def Key.code (k : Key) : Nat := strtoul k.toList 16

lemma code_eq (k : Key) : (k.code : Int) =
    (k.c₀.val * 2 ^ 24 + k.c₁.val * 2 ^ 16 + k.c₂.val * 2 ^ 8 + k.c₃.val) % 2 ^ 32 := by
  simp only [Key.code, strtoul, Key.toList, strtoulFrom, if_pos, List.length_cons, List.length_nil]
  omega

theorem code_injective {k k' : Key} (h : k.code = k'.code) : k = k' := by
  have hk := code_eq k
  have hk' := code_eq k'
  obtain ⟨⟨a, ha⟩, ⟨b, hb⟩, ⟨c, hc⟩, ⟨d, hd⟩⟩ := k
  obtain ⟨⟨a', ha'⟩, ⟨b', hb'⟩, ⟨c', hc'⟩, ⟨d', hd'⟩⟩ := k'
  rw [h] at hk
  simp only at hk hk'
  have hlast : d = d' := by omega
  have hthird : c = c' := by omega
  have hsecond : b = b' := by omega
  have hfirst : a = a' := by omega
  subst hlast hthird hsecond hfirst
  rfl

lemma toChar_eq_iff {n : Nat} {c : SChar} : toChar n = c ↔ (n : Int) % 256 = c.val % 256 := by
  obtain ⟨hlow, hhigh⟩ := c.property
  have hval : (toChar n).val = Int.bmod n 256 := rfl
  rw [Subtype.ext_iff, hval, Int.bmod_def]
  norm_num
  split_ifs <;> omega

/-- A name comes back from its number just if no character but the first is negative. -/
theorem ultostr_code (k : Key) :
    ultostr k.code = k.toList ↔ 0 ≤ k.c₁.val ∧ 0 ≤ k.c₂.val ∧ 0 ≤ k.c₃.val := by
  have hk := code_eq k
  obtain ⟨⟨a, ha⟩, ⟨b, hb⟩, ⟨c, hc⟩, ⟨d, hd⟩⟩ := k
  generalize Key.code _ = n at hk ⊢
  simp only [ultostr, Key.toList, toChar_eq_iff, List.cons.injEq, and_true]
  simp only at hk
  norm_num at hk ⊢
  constructor
  · rintro ⟨h₀, h₁, h₂, h₃⟩
    omega
  · rintro ⟨h₁, h₂, h₃⟩
    omega

lemma code_lt (k : Key) : k.code < 2 ^ 32 := by
  have hk := code_eq k
  omega

lemma ultostr_injective {n n' : Nat} (hn : n < 2 ^ 32) (hn' : n' < 2 ^ 32)
    (h : ultostr n = ultostr n') : n = n' := by
  have hbyte : ∀ {m m' : Nat}, toChar m = toChar m' → (m : Int) % 256 = m' % 256 := by
    intro m m' hm
    have hm' := toChar_eq_iff.mp (rfl : toChar m' = toChar m')
    exact (toChar_eq_iff.mp hm).trans hm'.symm
  simp only [ultostr, List.cons.injEq, and_true] at h
  obtain ⟨h₀, h₁, h₂, h₃⟩ := h
  have h₀ := hbyte h₀
  have h₁ := hbyte h₁
  have h₂ := hbyte h₂
  have h₃ := hbyte h₃
  norm_num at hn hn' h₀ h₁ h₂ h₃
  omega

/-! ## Reading -/

/-- The members of `SMCKeyData_t` that are used, with the bytes of a value. -/
structure SMCKeyData where
  key : Nat
  dataSize : Nat
  dataType : Nat
  data8 : Nat
  bytes : Fin 32 → SChar

def SMCKeyData.zero : SMCKeyData := ⟨0, 0, 0, 0, fun _ => toChar 0⟩

def SMC_CMD_READ_BYTES : Nat := 5

def SMC_CMD_READ_KEYINFO : Nat := 9

structure SMCVal where
  dataSize : Nat
  dataType : List SChar
  bytes : Fin 32 → SChar

/-- What a call of the driver puts in the output, unless it fails. -/
abbrev SMCCall := SMCKeyData → Option SMCKeyData

section
variable (call : SMCCall)

/-- The one input structure, which the second call uses again. -/
def inputStructure (key : Key) (dataSize data8 : Nat) : SMCKeyData :=
  { SMCKeyData.zero with key := key.code, dataSize := dataSize, data8 := data8 }

def SMCReadKey (key : Key) : Option SMCVal := do
  let info ← call (inputStructure key 0 SMC_CMD_READ_KEYINFO)
  let output ← call (inputStructure key info.dataSize SMC_CMD_READ_BYTES)
  return ⟨info.dataSize, ultostr info.dataType, output.bytes⟩

/-- A text ends at its first zero. -/
def cString (str : List SChar) : List SChar := str.takeWhile fun c => c.val ≠ 0

/-- The value of a key that has this type, and 0 if it cannot be read. -/
def getValue (datatype : Key) (convert : SChar → SChar → ℚ) (key : Key) : ℚ :=
  match SMCReadKey call key with
  | some val =>
    if 0 < val.dataSize ∧ cString val.dataType = cString datatype.toList then
      convert (val.bytes 0) (val.bytes 1)
    else 0
  | none => 0

end

def ofChars (a b c d : Char) : Key :=
  ⟨toChar a.toNat, toChar b.toNat, toChar c.toNat, toChar d.toNat⟩

def DATATYPE_SP78 : Key := ofChars 's' 'p' '7' '8'

def DATATYPE_FPE2 : Key := ofChars 'f' 'p' 'e' '2'

def SMCGetTemperature (call : SMCCall) : Key → ℚ :=
  getValue call DATATYPE_SP78 fun high low => ((high.val * 256 + low.toUnsigned : Int) : ℚ) / 256

def SMCGetFanSpeed (call : SMCCall) : Key → ℚ :=
  getValue call DATATYPE_FPE2 fun high low =>
    ((high.toUnsigned * 256 + low.toUnsigned : Nat) : ℚ) / 4

/-! ## What the driver has -/

/-- A value of the driver, with the name of its type. -/
structure Entry where
  type : Key
  size : Nat
  bytes : Fin 32 → SChar

/-- The driver looks the values up by the numbers of their keys. For a key that it does not have
it fails or answers without data. -/
structure Serves (call : SMCCall) (table : Key → Option Entry) : Prop where
  info : ∀ key input, input.key = key.code → input.data8 = SMC_CMD_READ_KEYINFO →
    match table key with
    | some entry => ∃ output, call input = some output ∧ output.dataSize = entry.size ∧
        output.dataType = entry.type.code
    | none => ∀ output, call input = some output → output.dataSize = 0
  bytes : ∀ key entry input, table key = some entry → input.key = key.code →
    input.dataSize = entry.size → input.data8 = SMC_CMD_READ_BYTES →
    ∃ output, call input = some output ∧ output.bytes = entry.bytes

/-- The 16 bits of the value. -/
def Entry.word (e : Entry) : Nat := 256 * (e.bytes 0).toUnsigned + (e.bytes 1).toUnsigned

def Entry.hasType (e : Entry) (datatype : Key) : Bool := decide (0 < e.size ∧ e.type = datatype)

lemma cString_whole {str : List SChar} (h : ∀ c ∈ str, c.val ≠ 0) : cString str = str :=
  List.takeWhile_eq_self_iff.mpr fun c hc => decide_eq_true (h c hc)

/-- A name of a type is told from all others. -/
lemma type_iff {type datatype : Key} (hround : ultostr datatype.code = datatype.toList)
    (hzero : ∀ c ∈ datatype.toList, c.val ≠ 0) :
    cString (ultostr type.code) = cString datatype.toList ↔ type = datatype := by
  rw [cString_whole hzero]
  constructor
  · intro h
    have hlength : (cString (ultostr type.code)).length = (ultostr type.code).length := by
      rw [h]
      rfl
    have hwhole : cString (ultostr type.code) = ultostr type.code :=
      (List.takeWhile_prefix _).eq_of_length hlength
    rw [hwhole, ← hround] at h
    exact code_injective (ultostr_injective (code_lt _) (code_lt _) h)
  · rintro rfl
    rw [hround, cString_whole hzero]

lemma getValue_eq {call : SMCCall} {table : Key → Option Entry} (h : Serves call table)
    {datatype : Key} (hround : ultostr datatype.code = datatype.toList)
    (hzero : ∀ c ∈ datatype.toList, c.val ≠ 0) (convert : SChar → SChar → ℚ) (key : Key) :
    getValue call datatype convert key =
      match table key with
      | some entry => if entry.hasType datatype then convert (entry.bytes 0) (entry.bytes 1) else 0
      | none => 0 := by
  have hinfo := h.info key (inputStructure key 0 SMC_CMD_READ_KEYINFO) rfl rfl
  rw [getValue]
  cases htable : table key with
  | none =>
    rw [htable] at hinfo
    cases hread : SMCReadKey call key with
    | none => rfl
    | some val =>
      obtain ⟨info, hcall, hval⟩ := Option.bind_eq_some_iff.mp hread
      obtain ⟨output, -, hval⟩ := Option.bind_eq_some_iff.mp hval
      obtain rfl := Option.some.inj hval
      have hempty := hinfo info hcall
      exact if_neg fun hsize => absurd hempty (Nat.ne_of_gt hsize.1)
  | some entry =>
    rw [htable] at hinfo
    obtain ⟨info, hcall, hsize, htype⟩ := hinfo
    obtain ⟨output, hcall', hbytes⟩ := h.bytes key entry
      (inputStructure key info.dataSize SMC_CMD_READ_BYTES) htable rfl hsize rfl
    have hread : SMCReadKey call key = some ⟨entry.size, ultostr entry.type.code, entry.bytes⟩ := by
      rw [SMCReadKey, hcall, Option.bind_eq_bind, Option.bind_some, hcall', ← hsize, ← htype,
        ← hbytes]
      rfl
    have hhas : (0 < entry.size ∧ cString (ultostr entry.type.code) = cString datatype.toList) ↔
        entry.hasType datatype = true := by
      rw [type_iff hround hzero, Entry.hasType, decide_eq_true_eq]
    rw [hread]
    simp only [hhas]

/-- The value of 16 bits in two's complement, with 8 of them after the point. -/
def Entry.signed (e : Entry) : ℚ := (Int.bmod e.word (2 ^ 16) : ℤ) / 2 ^ 8

/-- The value of 16 bits with 2 of them after the point. -/
def Entry.unsigned (e : Entry) : ℚ := (e.word : ℚ) / 2 ^ 2

lemma signed_eq (e : Entry) :
    (((e.bytes 0).val * 256 + (e.bytes 1).toUnsigned : Int) : ℚ) / 256 = e.signed := by
  have hhigh := (e.bytes 0).property
  have hlow := (e.bytes 1).property
  have hword : (e.bytes 0).val * 256 + (e.bytes 1).toUnsigned = Int.bmod e.word (2 ^ 16) := by
    rw [Entry.word, SChar.toUnsigned, SChar.toUnsigned, Int.bmod_def]
    norm_num
    split_ifs <;> omega
  rw [Entry.signed, hword]
  norm_num

lemma signed_range (e : Entry) : -128 ≤ e.signed ∧ e.signed < 128 := by
  have hlow := Int.le_bmod (x := e.word) (m := 2 ^ 16) (by decide)
  have hhigh := Int.bmod_lt (x := e.word) (m := 2 ^ 16) (by decide)
  norm_num at hlow hhigh
  have hlow' : (-32768 : ℚ) ≤ (Int.bmod e.word 65536 : ℤ) := by exact_mod_cast hlow
  have hhigh' : ((Int.bmod e.word 65536 : ℤ) : ℚ) < 32768 := by exact_mod_cast hhigh
  rw [Entry.signed]
  norm_num
  constructor <;> linarith

/-- A temperature is the signed value that the driver has for the key, if that is of the type of
temperatures, and 0 otherwise; the speed of a fan is the unsigned one of its type. -/
theorem smc_values {call : SMCCall} {table : Key → Option Entry} (h : Serves call table)
    (key : Key) :
    SMCGetTemperature call key =
      (((table key).filter (·.hasType DATATYPE_SP78)).map Entry.signed).getD 0 ∧
    SMCGetFanSpeed call key =
      (((table key).filter (·.hasType DATATYPE_FPE2)).map Entry.unsigned).getD 0 ∧
    -128 ≤ SMCGetTemperature call key ∧ SMCGetTemperature call key < 128 := by
  have hsp78 : SMCGetTemperature call key =
      (((table key).filter (·.hasType DATATYPE_SP78)).map Entry.signed).getD 0 := by
    rw [SMCGetTemperature, getValue_eq h (by decide +kernel) (by decide +kernel)]
    cases table key with
    | none => rfl
    | some entry =>
      simp only [signed_eq]
      by_cases htype : entry.hasType DATATYPE_SP78 <;> simp [htype, Option.filter]
  have hfpe2 : SMCGetFanSpeed call key =
      (((table key).filter (·.hasType DATATYPE_FPE2)).map Entry.unsigned).getD 0 := by
    rw [SMCGetFanSpeed, getValue_eq h (by decide +kernel) (by decide +kernel)]
    cases table key with
    | none => rfl
    | some entry =>
      have hword : (((entry.bytes 0).toUnsigned * 256 + (entry.bytes 1).toUnsigned : Nat) : ℚ) / 4 =
          entry.unsigned := by
        rw [Entry.unsigned, Entry.word, Nat.mul_comm]
        norm_num
      simp only [hword]
      by_cases htype : entry.hasType DATATYPE_FPE2 <;> simp [htype, Option.filter]
  refine ⟨hsp78, hfpe2, ?_⟩
  rw [hsp78]
  cases hentry : (table key).filter (·.hasType DATATYPE_SP78) with
  | none => norm_num
  | some entry => exact signed_range entry

/-! A driver with one sensor. -/

def cpuTemp : Key := ofChars 'T' 'C' '0' 'P'

/-- 48.5 degrees. -/
def cpuEntry : Entry := ⟨DATATYPE_SP78, 2, fun i => if i = 0 then toChar 0x30 else toChar 0x80⟩

def cpuTable (key : Key) : Option Entry := if key = cpuTemp then some cpuEntry else none

def cpuCall : SMCCall := fun input =>
  if input.key = cpuTemp.code then
    some { input with dataSize := 2, dataType := DATATYPE_SP78.code, bytes := cpuEntry.bytes }
  else none

lemma cpu_serves : Serves cpuCall cpuTable where
  info key input hkey _ := by
    by_cases h : key = cpuTemp
    · rw [cpuTable, if_pos h]
      exact ⟨_, if_pos (by rw [hkey, h]), rfl, rfl⟩
    · rw [cpuTable, if_neg h]
      intro output houtput
      rw [cpuCall, if_neg fun hcode => h (code_injective (hkey.symm.trans hcode))] at houtput
      exact absurd houtput (by simp)
  bytes key entry input htable hkey _ _ := by
    by_cases h : key = cpuTemp
    · rw [cpuTable, if_pos h] at htable
      obtain rfl := Option.some.inj htable
      exact ⟨_, if_pos (by rw [hkey, h]), rfl⟩
    · rw [cpuTable, if_neg h] at htable
      exact absurd htable (by simp)

theorem smc_values_cpu :
    SMCGetTemperature cpuCall cpuTemp =
      (((cpuTable cpuTemp).filter (·.hasType DATATYPE_SP78)).map Entry.signed).getD 0 :=
  (smc_values cpu_serves cpuTemp).1

example : SMCGetTemperature cpuCall cpuTemp = 48.5 := by decide +kernel

end SmcKeys
