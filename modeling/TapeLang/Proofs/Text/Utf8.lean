import TapeLang.Text.Utf8

/-!
Writing and reading UTF-8. Reading gives back what was written, whatever follows it. A byte below 0x80
stands only for its own character: it is written for no other, and no other bytes are read as it.
-/

namespace TapeLang.Text

theorem to_nat_of_nat {code : Nat} (byte : code < 256) : (UInt8.ofNat code).toNat = code := by
  rw [UInt8.toNat_ofNat']
  omega

theorem lead_of_nat {code : Nat} (byte : code < 256) :
    lead (UInt8.ofNat code) =
      if code < 0x80 then .whole (Char.ofNat code)
      else if code < 0xC2 then .invalid
      else if code < 0xE0 then .opens ⟨code - 0xC0, 1, 0x80, 0xBF⟩
      else if code = 0xE0 then .opens ⟨0, 2, 0xA0, 0xBF⟩
      else if code = 0xED then .opens ⟨0xD, 2, 0x80, 0x9F⟩
      else if code < 0xF0 then .opens ⟨code - 0xE0, 2, 0x80, 0xBF⟩
      else if code = 0xF0 then .opens ⟨0, 3, 0x90, 0xBF⟩
      else if code < 0xF4 then .opens ⟨code - 0xF0, 3, 0x80, 0xBF⟩
      else if code = 0xF4 then .opens ⟨4, 3, 0x80, 0x8F⟩
      else .invalid := by
  unfold lead
  simp only [UInt8.lt_iff_toNat_lt, ← UInt8.toNat_inj, to_nat_of_nat byte, UInt8.reduceToNat]

theorem decode_inside_bounded (state : Partial) {byte : UInt8} (least : state.least ≤ byte)
    (greatest : byte ≤ state.greatest) (rest : Bytes) :
    decodeInside state (byte :: rest) =
      if state.missing ≤ 1 then Char.ofNat (state.bitsWith byte) :: decodeStart rest
      else decodeInside ⟨state.bitsWith byte, state.missing - 1, 0x80, 0xBF⟩ rest := by
  rw [decodeInside, if_pos ⟨least, greatest⟩]

theorem decode_inside_broken {state : Partial} {byte : UInt8}
    (outside : ¬(state.least ≤ byte ∧ byte ≤ state.greatest)) (rest : Bytes) :
    decodeInside state (byte :: rest) = replacement :: decodeStart (byte :: rest) := by
  rw [decodeInside, if_neg outside, decodeStart]
  cases lead byte <;> rfl

theorem bits_with_of_value (state : Partial) {byte : UInt8} {low : Nat}
    (value : byte.toNat = low + 128) : state.bitsWith byte = state.bits * 64 + low := by
  unfold Partial.bitsWith
  rw [value, Nat.add_sub_cancel]

theorem decode_inside_of_nat (state : Partial) {low : Nat} (six : low < 64)
    (least : state.least.toNat ≤ low + 128) (greatest : low + 128 ≤ state.greatest.toNat)
    (rest : Bytes) :
    decodeInside state (UInt8.ofNat (low + 128) :: rest) =
      if state.missing ≤ 1 then Char.ofNat (state.bits * 64 + low) :: decodeStart rest
      else decodeInside ⟨state.bits * 64 + low, state.missing - 1, 0x80, 0xBF⟩ rest := by
  have value : (UInt8.ofNat (low + 128)).toNat = low + 128 := to_nat_of_nat (by omega)
  have lower : state.least ≤ UInt8.ofNat (low + 128) := by
    simpa only [UInt8.le_iff_toNat_le, value] using least
  have upper : UInt8.ofNat (low + 128) ≤ state.greatest := by
    simpa only [UInt8.le_iff_toNat_le, value] using greatest
  rw [decode_inside_bounded state lower upper, bits_with_of_value state value]

theorem decode_inside_tail {bits missing low : Nat} (six : low < 64) (rest : Bytes) :
    decodeInside ⟨bits, missing, 0x80, 0xBF⟩ (UInt8.ofNat (low + 128) :: rest) =
      if missing ≤ 1 then Char.ofNat (bits * 64 + low) :: decodeStart rest
      else decodeInside ⟨bits * 64 + low, missing - 1, 0x80, 0xBF⟩ rest := by
  apply decode_inside_of_nat ⟨bits, missing, 0x80, 0xBF⟩ six
  · exact Nat.le_add_left 128 low
  · change low + 128 ≤ 191
    omega

theorem lead_of_two {high : Nat} (least : 2 ≤ high) (greatest : high < 32) :
    lead (UInt8.ofNat (high + 192)) = .opens ⟨high, 1, 0x80, 0xBF⟩ := by
  rw [lead_of_nat (by omega), if_neg (by omega), if_neg (by omega), if_pos (by omega),
    Nat.add_sub_cancel]

/-- The first and the second byte together exclude overlong forms and surrogates. -/
theorem lead_of_three {high : Nat} (greatest : high < 16) :
    lead (UInt8.ofNat (high + 224)) =
      .opens ⟨high, 2, if high = 0 then 0xA0 else 0x80, if high = 13 then 0x9F else 0xBF⟩ := by
  rw [lead_of_nat (by omega), if_neg (by omega), if_neg (by omega), if_neg (by omega)]
  by_cases zero : high = 0
  · subst zero
    rfl
  · by_cases surrogates : high = 13
    · subst surrogates
      rfl
    · rw [if_neg (by omega), if_neg (by omega), if_pos (by omega), if_neg zero, if_neg surrogates,
        Nat.add_sub_cancel]

theorem lead_of_four {high : Nat} (greatest : high < 5) :
    lead (UInt8.ofNat (high + 240)) =
      .opens ⟨high, 3, if high = 0 then 0x90 else 0x80, if high = 4 then 0x8F else 0xBF⟩ := by
  rw [lead_of_nat (by omega), if_neg (by omega), if_neg (by omega), if_neg (by omega),
    if_neg (by omega), if_neg (by omega), if_neg (by omega)]
  by_cases zero : high = 0
  · subst zero
    rfl
  · by_cases last : high = 4
    · subst last
      rfl
    · rw [if_neg (by omega), if_pos (by omega), if_neg zero, if_neg last, Nat.add_sub_cancel]

theorem decode_encode_char (c : Char) (rest : Bytes) :
    decodeStart (String.utf8EncodeChar c ++ rest) = c :: decodeStart rest := by
  have valid : c.val.toNat < 0xD800 ∨ 0xDFFF < c.val.toNat ∧ c.val.toNat < 0x110000 := c.valid
  have same : Char.ofNat c.val.toNat = c := Char.ofNat_toNat c
  unfold String.utf8EncodeChar
  generalize c.val.toNat = code at valid same
  dsimp only
  by_cases one : code ≤ 127
  · rw [if_pos one, List.singleton_append, decodeStart, lead_of_nat (by omega), if_pos (by omega)]
    exact congrArg (· :: _) same
  rw [if_neg one]
  by_cases two : code ≤ 2047
  · have whole : code / 64 % 32 * 64 + code % 64 = code := by omega
    rw [if_pos two, List.cons_append, List.singleton_append, decodeStart,
      lead_of_two (by omega) (by omega)]
    dsimp only
    rw [decode_inside_tail (by omega), if_pos (Nat.le_refl 1), whole, same]
  rw [if_neg two]
  by_cases three : code ≤ 65535
  · have whole : (code / 4096 % 16 * 64 + code / 64 % 64) * 64 + code % 64 = code := by omega
    rw [if_pos three, List.cons_append, List.cons_append, List.singleton_append, decodeStart,
      lead_of_three (by omega)]
    dsimp only
    rw [decode_inside_of_nat _ (by omega), if_neg (by simp)]
    · dsimp only
      rw [decode_inside_tail (by omega), if_pos (by omega), whole, same]
    · dsimp only
      split
      · change 160 ≤ _
        omega
      · change 128 ≤ _
        omega
    · dsimp only
      split
      · change _ ≤ 159
        omega
      · change _ ≤ 191
        omega
  · have whole : ((code / 262144 % 8 * 64 + code / 4096 % 64) * 64 + code / 64 % 64) * 64 +
        code % 64 = code := by omega
    rw [if_neg three, List.cons_append, List.cons_append, List.cons_append, List.singleton_append,
      decodeStart, lead_of_four (by omega)]
    dsimp only
    rw [decode_inside_of_nat _ (by omega), if_neg (by simp)]
    · dsimp only
      rw [decode_inside_tail (by omega), if_neg (by omega), decode_inside_tail (by omega),
        if_pos (by omega), whole, same]
    · dsimp only
      split
      · change 144 ≤ _
        omega
      · change 128 ≤ _
        omega
    · dsimp only
      split
      · change _ ≤ 143
        omega
      · change _ ≤ 191
        omega

theorem decode_encode (text : String) : decode (encode text) = text := by
  have each (chars : List Char) : decodeStart (chars.flatMap String.utf8EncodeChar) = chars := by
    induction chars with
    | nil => rfl
    | cons c rest ih => rw [List.flatMap_cons, decode_encode_char, ih]
  unfold decode encode
  rw [each, String.ofList_toList]

/-- A byte below 0x80 is written for its own character only. -/
theorem mem_encode_char {byte : UInt8} (ascii : byte.toNat < 0x80) {c : Char}
    (found : byte ∈ String.utf8EncodeChar c) : c = Char.ofNat byte.toNat := by
  have same : Char.ofNat c.val.toNat = c := Char.ofNat_toNat c
  unfold String.utf8EncodeChar at found
  generalize c.val.toNat = code at found same
  dsimp only at found
  have only {value : Nat} (below : value < 256) (equal : byte = UInt8.ofNat value) :
      byte.toNat = value := by
    rw [equal, to_nat_of_nat below]
  split at found
  case isTrue one =>
    rw [List.mem_singleton] at found
    rw [only (by omega) found, same]
  case isFalse more =>
    exfalso
    repeat' split at found
    all_goals simp only [List.mem_cons, List.not_mem_nil, or_false] at found
    · rcases found with equal | equal
      · have value := only (by omega) equal
        omega
      · have value := only (by omega) equal
        omega
    · rcases found with equal | equal | equal
      all_goals
        have value := only (by omega) equal
        omega
    · rcases found with equal | equal | equal | equal
      all_goals
        have value := only (by omega) equal
        omega

theorem not_mem_encode {byte : UInt8} (ascii : byte.toNat < 0x80) {text : String}
    (absent : Char.ofNat byte.toNat ∉ text.toList) : byte ∉ encode text := by
  intro found
  obtain ⟨c, present, inside⟩ := List.mem_flatMap.mp found
  rw [mem_encode_char ascii inside] at present
  exact absent present

@[simp] theorem encode_append (first second : String) :
    encode (first ++ second) = encode first ++ encode second := by
  unfold encode
  rw [String.toList_append, List.flatMap_append]

theorem encode_join (texts : List String) : encode (String.join texts) = texts.flatMap encode := by
  unfold encode
  rw [String.toList_join, List.flatMap_assoc]

def extended (code : Nat) : Nat → Nat
  | 0 => code
  | more + 1 => extended (code * 64) more

theorem extended_le {code other : Nat} (smaller : code ≤ other) (more : Nat) :
    extended code more ≤ extended other more := by
  induction more generalizing code other with
  | zero => exact smaller
  | succ more ih => exact ih (Nat.mul_le_mul_right 64 smaller)

def Partial.leastCode (state : Partial) : Nat :=
  extended (state.bits * 64 + (state.least.toNat - 0x80)) (state.missing - 1)

theorem Partial.least_code_tail (bits missing : Nat) :
    leastCode ⟨bits, missing, 0x80, 0xBF⟩ = extended (bits * 64) (missing - 1) := by
  simp [leastCode]

def Lead.fits (code : Nat) : Lead → Bool
  | .whole c => c = Char.ofNat code
  | .opens state => 0x80 ≤ state.leastCode
  | .invalid => true

theorem lead_fits (byte : UInt8) : (lead byte).fits byte.toNat = true := by
  have each : ∀ code : Fin 256, (lead (.ofFin code)).fits code = true := by
    decide +kernel
  exact each byte.toFin

theorem Partial.least_code_le (state : Partial) {byte : UInt8} (least : state.least ≤ byte) :
    state.leastCode ≤ extended (state.bitsWith byte) (state.missing - 1) := by
  have lower : state.least.toNat ≤ byte.toNat := UInt8.le_iff_toNat_le.mp least
  apply extended_le
  unfold bitsWith
  omega

theorem to_nat_of_valid {code : Nat} (valid : code.isValidChar) : (Char.ofNat code).toNat = code := by
  rw [Char.ofNat, dif_pos valid]
  rfl

theorem to_nat_of_byte (byte : UInt8) : (Char.ofNat byte.toNat).toNat = byte.toNat := by
  have bound := byte.toNat_lt
  exact to_nat_of_valid (.inl (by omega))

theorem of_nat_byte_injective {first second : UInt8}
    (same : Char.ofNat first.toNat = Char.ofNat second.toNat) : first = second := by
  have codes := congrArg Char.toNat same
  rw [to_nat_of_byte, to_nat_of_byte] at codes
  exact UInt8.toNat_inj.mp codes

/-- A byte that is written for its own character only, and read as no other. -/
structure Plain (byte : UInt8) : Prop where
  visible : 0 < byte.toNat
  ascii : byte.toNat < 0x80

namespace Plain

variable {byte : UInt8}

theorem ne_of_wide (plain : Plain byte) {code : Nat} (wide : 0x80 ≤ code) :
    Char.ofNat byte.toNat ≠ Char.ofNat code := by
  intro same
  have visible := plain.visible
  have ascii := plain.ascii
  have codes := congrArg Char.toNat same
  rw [to_nat_of_byte] at codes
  by_cases valid : code.isValidChar
  · rw [to_nat_of_valid valid] at codes
    omega
  · have zero : (Char.ofNat code).toNat = 0 := by simp [Char.ofNat, valid]
    omega

theorem ne_replacement (plain : Plain byte) : Char.ofNat byte.toNat ≠ replacement := by
  have wide := plain.ne_of_wide (by decide : 0x80 ≤ 0xFFFD)
  exact wide

/-- The character of a plain byte is read from that byte only. -/
theorem not_mem_decode (plain : Plain byte) {bytes : Bytes} (absent : byte ∉ bytes) :
    Char.ofNat byte.toNat ∉ decodeStart bytes ∧
      ∀ state : Partial, 0x80 ≤ state.leastCode → Char.ofNat byte.toNat ∉ decodeInside state bytes := by
  -- inside a character the least code it can still become is beyond every plain byte
  induction bytes with
  | nil =>
      constructor
      · simp [decodeStart]
      · intro state _
        rw [decodeInside, List.mem_singleton]
        exact plain.ne_replacement
  | cons first rest ih =>
      rw [List.mem_cons, not_or] at absent
      rcases ih absent.2 with ⟨later, inside⟩
      have between : Char.ofNat byte.toNat ∉ decodeStart (first :: rest) := by
        have fits := lead_fits first
        rw [decodeStart]
        cases found : lead first with
        | whole c =>
            rw [found] at fits
            have same : c = Char.ofNat first.toNat := of_decide_eq_true fits
            rw [List.mem_cons, not_or, same]
            exact ⟨fun equal => absent.1 (of_nat_byte_injective equal), later⟩
        | opens state =>
            rw [found] at fits
            exact inside state (of_decide_eq_true fits)
        | invalid =>
            rw [List.mem_cons, not_or]
            exact ⟨plain.ne_replacement, later⟩
      refine ⟨between, ?_⟩
      intro state wide
      by_cases bounded : state.least ≤ first ∧ first ≤ state.greatest
      · have grown := Nat.le_trans wide (state.least_code_le bounded.1)
        rw [decode_inside_bounded state bounded.1 bounded.2]
        by_cases last : state.missing ≤ 1
        · have none : state.missing - 1 = 0 := by omega
          rw [none, extended] at grown
          rw [if_pos last, List.mem_cons, not_or]
          exact ⟨plain.ne_of_wide grown, later⟩
        · have more : state.missing - 1 = state.missing - 1 - 1 + 1 := by omega
          rw [more, extended] at grown
          rw [if_neg last]
          apply inside
          rw [Partial.least_code_tail]
          exact grown
      · rw [decode_inside_broken bounded, List.mem_cons, not_or]
        exact ⟨plain.ne_replacement, between⟩

end Plain

end TapeLang.Text
