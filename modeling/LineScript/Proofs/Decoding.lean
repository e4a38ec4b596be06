import LineScript.Text.Utf8

/-!
# Lenient reading of bytes
A byte of ASCII always begins anew: it closes what is open and stands for itself, so that reading
can be cut in front of it (`decodeFrom_append_ascii`), and no line feed comes from other bytes
(`lineFeed_decodeFrom`). What was written is read again (`decodeChars_encodeChars`).
-/
namespace LineScript.Text.Utf8

/-! ## Open characters -/

/-- A code of so many further bytes will lie beyond ASCII: it does so already, or there is one more
byte to come, which multiplies it by 64. -/
def Beyond (missing code : Nat) : Prop := 0x80 ≤ code ∨ 1 < missing ∧ 2 ≤ code

/-- What a character that has begun satisfies: it goes on with no byte of ASCII, and it will lie
beyond ASCII. -/
structure Partial.Sound (p : Partial) : Prop where
  low : 0x80 ≤ p.low.toNat
  beyond : Beyond p.missing (p.bits * 64 + (p.low.toNat - 0x80))

/-- Every open character is sound. -/
def Sound (open? : Option Partial) : Prop := ∀ p ∈ open?, p.Sound

theorem sound_none : Sound none := by simp [Sound]

theorem sound_some {p : Partial} (sound : p.Sound) : Sound (some p) := by simpa [Sound] using sound

theorem lead_ascii {b : UInt8} (ascii : b < 0x80) : lead b = .char (Char.ofNat b.toNat) := by
  rw [lead, if_pos ascii]

/-- What may go on with any byte is sound if the bits read already lead beyond ASCII. -/
private theorem Partial.sound_of_bits {missing bits : Nat} (beyond : Beyond missing (bits * 64))
    (high : UInt8) : Partial.Sound ⟨missing, 0x80, high, bits⟩ where
  low := Nat.le_of_eq rfl
  beyond := by simpa only [UInt8.reduceToNat, Nat.sub_self, Nat.add_zero] using beyond

theorem Partial.sound_of_lead {b : UInt8} {p : Partial} (begins : lead b = .begins p) :
    p.Sound := by
  unfold lead at begins
  simp only [UInt8.lt_iff_toNat_lt, ← UInt8.toNat_inj, UInt8.reduceToNat] at begins
  split at begins
  · cases begins
  split at begins
  · cases begins
  split at begins
  -- Two bytes: what is below two would have fitted into one.
  · cases begins
    exact sound_of_bits (.inl (by omega)) _
  split at begins
  · cases begins
    exact ⟨by decide, .inr (by decide)⟩
  split at begins
  · cases begins
    exact ⟨by decide, .inr (by decide)⟩
  split at begins
  · cases begins
    exact sound_of_bits (.inr ⟨by decide, by omega⟩) _
  split at begins
  · cases begins
    exact ⟨by decide, .inr (by decide)⟩
  split at begins
  · cases begins
    exact sound_of_bits (.inr ⟨by decide, by omega⟩) _
  split at begins
  · cases begins
    exact ⟨by decide, .inr (by decide)⟩
  · cases begins

/-- The code of the next character is at least what a sound beginning promises. -/
theorem Partial.Sound.code {p : Partial} (sound : p.Sound) {b : UInt8} (goes : p.accepts b = true) :
    Beyond p.missing (p.bits * 64 + (b.toNat - 0x80)) := by
  have least : p.low.toNat ≤ b.toNat := by
    simp only [accepts, Bool.and_eq_true, decide_eq_true_eq, UInt8.le_iff_toNat_le] at goes
    exact goes.1
  have beyond := sound.beyond
  unfold Beyond at beyond ⊢
  omega

theorem Partial.Sound.add {p q : Partial} (sound : p.Sound) {b : UInt8}
    (goes : p.accepts b = true) (added : p.add b = .inr q) : q.Sound := by
  have code := sound.code goes
  unfold Partial.add at added
  split at added
  · cases added
  · cases added
    unfold Beyond at code
    exact sound_of_bits (.inl (by omega)) _

theorem ofNat_eq_lineFeed {n : Nat} (same : Char.ofNat n = '\n') : n = 0x0a := by
  by_cases valid : n.isValidChar
  · rw [Char.ofNat, dif_pos valid] at same
    exact congrArg Char.toNat same
  · rw [Char.ofNat, dif_neg valid] at same
    cases same

theorem Partial.Sound.add_char {p : Partial} (sound : p.Sound) {b : UInt8}
    (goes : p.accepts b = true) {c : Char} (added : p.add b = .inl c) : c ≠ '\n' := by
  have code := sound.code goes
  unfold Partial.add at added
  split at added
  · rename_i last
    obtain rfl := Sum.inl.inj added
    intro same
    have feed := ofNat_eq_lineFeed same
    unfold Beyond at code
    omega
  · cases added

/-! ## Single steps -/

/-- What an open character comes to where it breaks off. -/
def broken (open? : Option Partial) : List Char := if open?.isSome then [replacement] else []

/-- A byte of ASCII closes the open character and stands for itself. -/
theorem step_ascii {open? : Option Partial} (sound : Sound open?) {b : UInt8} (ascii : b < 0x80) :
    step open? b = (broken open? ++ [Char.ofNat b.toNat], none) := by
  have alone : start b = ([Char.ofNat b.toNat], none) := by rw [start, lead_ascii ascii]
  cases open? with
  | none => exact alone
  | some p =>
    have refused : p.accepts b = false := by
      have low := (sound p rfl).low
      have small : b.toNat < 0x80 := UInt8.lt_iff_toNat_lt.mp ascii
      simp only [Partial.accepts, Bool.and_eq_false_iff, decide_eq_false_iff_not,
        UInt8.le_iff_toNat_le]
      omega
    simp [step, refused, alone, broken]

theorem sound_start (b : UInt8) : Sound (start b).2 := by
  unfold start
  cases begins : lead b with
  | begins p => exact sound_some (Partial.sound_of_lead begins)
  | _ => exact sound_none

theorem sound_step {open? : Option Partial} (sound : Sound open?) (b : UInt8) :
    Sound (step open? b).2 := by
  cases open? with
  | none => exact sound_start b
  | some p =>
    rw [step]
    by_cases goes : p.accepts b = true
    · rw [if_pos goes]
      cases added : p.add b with
      | inl c => exact sound_none
      | inr q => exact sound_some ((sound p rfl).add goes added)
    · rw [if_neg goes]
      exact sound_start b

theorem lineFeed_start {b : UInt8} (other : b ≠ 0x0a) : '\n' ∉ (start b).1 := by
  unfold start
  cases begins : lead b with
  | char c =>
    unfold lead at begins
    split at begins
    · cases begins
      intro member
      have code := ofNat_eq_lineFeed (List.mem_singleton.mp member).symm
      exact other (UInt8.toNat_inj.mp code)
    · repeat' split at begins
      all_goals cases begins
  | _ => simp [replacement]

theorem lineFeed_step {open? : Option Partial} (sound : Sound open?) {b : UInt8}
    (other : b ≠ 0x0a) : '\n' ∉ (step open? b).1 := by
  cases open? with
  | none => exact lineFeed_start other
  | some p =>
    rw [step]
    by_cases goes : p.accepts b = true
    · rw [if_pos goes]
      cases added : p.add b with
      | inl c => simpa using ((sound p rfl).add_char goes added).symm
      | inr q => simp
    · rw [if_neg goes]
      have rest := lineFeed_start other
      simpa [replacement] using rest

/-! ## Lenient reading -/

theorem decodeFrom_cons (open? : Option Partial) (b : UInt8) (rest : List UInt8) :
    decodeFrom open? (b :: rest) = (step open? b).1 ++ decodeFrom (step open? b).2 rest := rfl

theorem decodeFrom_nil (open? : Option Partial) : decodeFrom open? [] = broken open? := rfl

/-- Where a byte of ASCII stands, reading begins anew. -/
theorem decodeFrom_append_ascii {open? : Option Partial} (sound : Sound open?) (bytes : List UInt8)
    {b : UInt8} (ascii : b < 0x80) (rest : List UInt8) :
    decodeFrom open? (bytes ++ b :: rest) =
      decodeFrom open? bytes ++ Char.ofNat b.toNat :: decodeFrom none rest := by
  induction bytes generalizing open? with
  | nil =>
    rw [List.nil_append, decodeFrom_cons, step_ascii sound ascii, decodeFrom_nil,
      List.append_assoc, List.singleton_append]
  | cons first bytes ih =>
    rw [List.cons_append, decodeFrom_cons, decodeFrom_cons, ih (sound_step sound first),
      List.append_assoc]

theorem decodeChars_append_ascii (bytes : List UInt8) {b : UInt8} (ascii : b < 0x80)
    (rest : List UInt8) :
    decodeChars (bytes ++ b :: rest) =
      decodeChars bytes ++ Char.ofNat b.toNat :: decodeChars rest :=
  decodeFrom_append_ascii sound_none bytes ascii rest

/-- A line feed ends the line that bytes are read as. -/
theorem decodeChars_concat_lineFeed (bytes : List UInt8) :
    decodeChars (bytes ++ [0x0a]) = decodeChars bytes ++ ['\n'] :=
  decodeChars_append_ascii bytes (by decide) []

theorem lineFeed_decodeFrom {open? : Option Partial} (sound : Sound open?) {bytes : List UInt8}
    (without : 0x0a ∉ bytes) : '\n' ∉ decodeFrom open? bytes := by
  induction bytes generalizing open? with
  | nil =>
    cases open? <;> simp [decodeFrom, replacement]
  | cons b rest ih =>
    obtain ⟨first, others⟩ := List.ne_and_not_mem_of_not_mem_cons without
    rw [decodeFrom_cons, List.mem_append, not_or]
    exact ⟨lineFeed_step sound first.symm, ih (sound_step sound b) others⟩

/-- A byte yields a character or leaves one open. -/
theorem step_yields (open? : Option Partial) (b : UInt8) :
    (step open? b).1 ≠ [] ∨ (step open? b).2.isSome := by
  have first : (start b).1 ≠ [] ∨ (start b).2.isSome := by
    unfold start
    cases lead b <;> simp
  cases open? with
  | none => exact first
  | some p =>
    rw [step]
    by_cases goes : p.accepts b = true
    · rw [if_pos goes]
      cases p.add b <;> simp
    · rw [if_neg goes]
      exact .inl (by simp)

theorem decodeFrom_ne_nil {open? : Option Partial} {bytes : List UInt8}
    (some : open?.isSome ∨ bytes ≠ []) : decodeFrom open? bytes ≠ [] := by
  induction bytes generalizing open? with
  | nil =>
    rcases some with begun | more
    · simp [decodeFrom_nil, broken, begun]
    · exact absurd rfl more
  | cons b rest ih =>
    intro nothing
    obtain ⟨now, later⟩ := List.append_eq_nil_iff.mp nothing
    rcases step_yields open? b with yields | begun
    · exact yields now
    · exact ih (.inl begun) later

theorem decodeChars_ne_nil {bytes : List UInt8} (some : bytes ≠ []) : decodeChars bytes ≠ [] :=
  decodeFrom_ne_nil (.inr some)

/-! ## Reading what was written -/

/-- A byte that goes on with a character: its six bits behind the mark. -/
def tailByte (bits : Nat) : UInt8 := UInt8.ofNat (bits % 0x40 + 0x80)

theorem toNat_tailByte (bits : Nat) : (tailByte bits).toNat = bits % 0x40 + 0x80 := by
  simp only [tailByte, UInt8.toNat_ofNat']
  omega

section
variable {low high : UInt8} {bits next : Nat} (above : low.toNat ≤ next % 0x40 + 0x80)
  (below : next % 0x40 + 0x80 ≤ high.toNat) (rest : List UInt8)
include above below

private theorem accepts_tailByte (missing : Nat) :
    Partial.accepts ⟨missing, low, high, bits⟩ (tailByte next) = true := by
  simp [Partial.accepts, UInt8.le_iff_toNat_le, toNat_tailByte, above, below]

/-- The last byte of a character finishes it. -/
theorem decodeFrom_last : decodeFrom (some ⟨1, low, high, bits⟩) (tailByte next :: rest) =
    Char.ofNat (bits * 64 + next % 64) :: decodeFrom none rest := by
  rw [decodeFrom_cons, step, if_pos (accepts_tailByte above below 1), Partial.add, toNat_tailByte,
    Nat.add_sub_cancel]
  rfl

/-- A byte before it adds to its code. -/
theorem decodeFrom_more (missing : Nat) :
    decodeFrom (some ⟨missing + 2, low, high, bits⟩) (tailByte next :: rest) =
      decodeFrom (some ⟨missing + 1, 0x80, 0xbf, bits * 64 + next % 64⟩) rest := by
  rw [decodeFrom_cons, step, if_pos (accepts_tailByte above below _), Partial.add, toNat_tailByte,
    Nat.add_sub_cancel, if_neg (by simp)]
  rfl

end

theorem decodeFrom_lead {b : UInt8} {p : Partial} (begins : lead b = .begins p)
    (rest : List UInt8) : decodeFrom none (b :: rest) = decodeFrom (some p) rest := by
  rw [decodeFrom_cons, step, start, begins]
  rfl

theorem lead_two (bits : Nat) (more : 2 ≤ bits) (few : bits < 0x20) :
    lead (UInt8.ofNat (bits % 0x20 + 0xc0)) = .begins ⟨1, 0x80, 0xbf, bits⟩ := by
  have code : (UInt8.ofNat (bits % 0x20 + 0xc0)).toNat = bits + 0xc0 := by
    simp only [UInt8.toNat_ofNat']
    omega
  simp only [lead, UInt8.lt_iff_toNat_lt, code, UInt8.reduceToNat, Nat.add_sub_cancel]
  rw [if_neg (by omega), if_neg (by omega), if_pos (by omega)]

/-- The bounds behind the first byte of three keep out what would be too short, and surrogates. -/
theorem lead_three (bits : Nat) (few : bits < 0x10) :
    ∃ low high, lead (UInt8.ofNat (bits % 0x10 + 0xe0)) = .begins ⟨2, low, high, bits⟩ ∧
      low.toNat ≤ 0xa0 ∧ (bits ≠ 0 → low.toNat = 0x80) ∧
      0x9f ≤ high.toNat ∧ (bits ≠ 0xd → high.toNat = 0xbf) := by
  have code : (UInt8.ofNat (bits % 0x10 + 0xe0)).toNat = bits + 0xe0 := by
    simp only [UInt8.toNat_ofNat']
    omega
  simp only [lead, UInt8.lt_iff_toNat_lt, ← UInt8.toNat_inj, code, UInt8.reduceToNat,
    Nat.add_sub_cancel]
  rw [if_neg (by omega), if_neg (by omega), if_neg (by omega)]
  by_cases least : bits = 0
  · subst least
    exact ⟨_, _, rfl, by decide⟩
  by_cases last : bits = 0xd
  · subst last
    exact ⟨_, _, rfl, by decide⟩
  rw [if_neg (by omega), if_neg (by omega), if_pos (by omega)]
  exact ⟨_, _, rfl, by decide, fun _ => rfl, by decide, fun _ => rfl⟩

/-- Those behind the first byte of four keep out what would be too short, and what lies beyond the
last character. -/
theorem lead_four (bits : Nat) (few : bits < 5) :
    ∃ low high, lead (UInt8.ofNat (bits % 0x08 + 0xf0)) = .begins ⟨3, low, high, bits⟩ ∧
      low.toNat ≤ 0x90 ∧ (bits ≠ 0 → low.toNat = 0x80) ∧
      0x8f ≤ high.toNat ∧ (bits ≠ 4 → high.toNat = 0xbf) := by
  have code : (UInt8.ofNat (bits % 0x08 + 0xf0)).toNat = bits + 0xf0 := by
    simp only [UInt8.toNat_ofNat']
    omega
  simp only [lead, UInt8.lt_iff_toNat_lt, ← UInt8.toNat_inj, code, UInt8.reduceToNat,
    Nat.add_sub_cancel]
  rw [if_neg (by omega), if_neg (by omega), if_neg (by omega), if_neg (by omega),
    if_neg (by omega), if_neg (by omega)]
  by_cases least : bits = 0
  · subst least
    exact ⟨_, _, rfl, by decide⟩
  by_cases last : bits = 4
  · subst last
    exact ⟨_, _, rfl, by decide⟩
  rw [if_neg (by omega), if_pos (by omega)]
  exact ⟨_, _, rfl, by decide, fun _ => rfl, by decide, fun _ => rfl⟩

/-- The bytes of a character by its code. -/
def encodeCode (code : Nat) : List UInt8 :=
  if code ≤ 0x7f then [UInt8.ofNat code]
  else if code ≤ 0x7ff then [UInt8.ofNat (code / 64 % 0x20 + 0xc0), tailByte code]
  else if code ≤ 0xffff then
    [UInt8.ofNat (code / 4096 % 0x10 + 0xe0), tailByte (code / 64), tailByte code]
  else
    [UInt8.ofNat (code / 262144 % 0x08 + 0xf0), tailByte (code / 4096), tailByte (code / 64),
      tailByte code]

/-- A code that was written is read as its character, whatever stands behind it. -/
theorem decodeFrom_encodeCode {code : Nat} (valid : code.isValidChar) (rest : List UInt8) :
    decodeFrom none (encodeCode code ++ rest) = Char.ofNat code :: decodeFrom none rest := by
  have range : code < 0xd800 ∨ 0xdfff < code ∧ code < 0x110000 := valid
  unfold encodeCode
  by_cases one : code ≤ 0x7f
  · have byte : (UInt8.ofNat code).toNat = code := by
      simp only [UInt8.toNat_ofNat']
      omega
    have ascii : UInt8.ofNat code < 0x80 := by
      rw [UInt8.lt_iff_toNat_lt, byte]
      exact Nat.lt_of_le_of_lt one (by decide)
    rw [if_pos one, List.singleton_append, decodeFrom_cons, step_ascii sound_none ascii, byte]
    rfl
  have bound (next : Nat) : next % 0x40 + 0x80 ≤ (0xbf : UInt8).toNat := by
    simp only [UInt8.reduceToNat]
    omega
  have least (next : Nat) : (0x80 : UInt8).toNat ≤ next % 0x40 + 0x80 := Nat.le_add_left _ _
  by_cases two : code ≤ 0x7ff
  · rw [if_neg one, if_pos two, List.cons_append,
      decodeFrom_lead (lead_two (code / 64) (by omega) (by omega)), List.singleton_append,
      decodeFrom_last (least code) (bound code)]
    congr 2
    omega
  by_cases three : code ≤ 0xffff
  · obtain ⟨low, high, begins, lower, lowest, upper, uppermost⟩ :=
      lead_three (code / 4096) (by omega)
    rw [if_neg one, if_neg two, if_pos three, List.cons_append, decodeFrom_lead begins,
      List.cons_append, decodeFrom_more (by omega) (by omega), List.singleton_append,
      decodeFrom_last (least code) (bound code)]
    congr 2
    omega
  · obtain ⟨low, high, begins, lower, lowest, upper, uppermost⟩ :=
      lead_four (code / 262144) (by omega)
    rw [if_neg one, if_neg two, if_neg three, List.cons_append, decodeFrom_lead begins,
      List.cons_append, decodeFrom_more (by omega) (by omega), List.cons_append,
      decodeFrom_more (least _) (bound _), List.singleton_append,
      decodeFrom_last (least code) (bound code)]
    congr 2
    omega

/-- Lenient reading undoes writing. -/
theorem decodeChars_encodeChars (cs : List Char) : decodeChars (encodeChars cs) = cs := by
  induction cs with
  | nil => rfl
  | cons c cs ih =>
    have written : encodeChars (c :: cs) = encodeCode c.val.toNat ++ encodeChars cs := rfl
    rw [written, decodeChars, decodeFrom_encodeCode c.valid]
    show Char.ofNat c.toNat :: decodeChars (encodeChars cs) = c :: cs
    rw [Char.ofNat_toNat, ih]

end LineScript.Text.Utf8
