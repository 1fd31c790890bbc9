import Tabletop.Text.Encoding
import Tabletop.Text.Number
import Mathlib

/-!
# Letters, digits and bytes of texts

What the functions on letters, decimals and bytes do, said in lemmas that do not show how.
-/

namespace Tabletop
namespace Text

/-!
## Decimal numbers as texts

Writing a number and reading it back are inverse.  Ten digits are enough exactly
for the numbers below ten thousand millions, and no ten digits write more.
-/

/-- A text of the ten digits only. -/
def Digits (cs : List Char) : Prop := ∀ c ∈ cs, c.isDigit = true

theorem all_isDigit_iff {cs : List Char} : cs.all Char.isDigit = true ↔ Digits cs :=
  List.all_eq_true

namespace Decimal

theorem value_eq_ofDigitChars (cs : List Char) : value cs = Nat.ofDigitChars 10 cs 0 := rfl

@[simp] theorem value_digits (n : Nat) : value (digits n) = n :=
  Nat.ofDigitChars_ten_toDigits

theorem digits_digits (n : Nat) : Digits (digits n) := by
  intro c hc
  exact Nat.isDigit_of_mem_toDigits (by omega) (by omega) hc

theorem digits_ne_nil (n : Nat) : digits n ≠ [] := Nat.toDigits_ne_nil

theorem length_digits_le_iff {n k : Nat} (hk : 0 < k) :
    (digits n).length ≤ k ↔ n < 10 ^ k :=
  Nat.length_toDigits_le_iff (by omega) hk

theorem value_lt {cs : List Char} (hdigits : Digits cs) : value cs < 10 ^ cs.length := by
  induction cs with
  | nil => simp
  | cons c rest ih =>
      have hrest : value rest < 10 ^ rest.length :=
        ih fun d hd => hdigits d (by simp [hd])
      have hc : c.toNat - '0'.toNat ≤ 9 := by
        have hbounds := Char.isDigit_iff_toNat.mp (hdigits c (by simp))
        have hnine : '9'.toNat = '0'.toNat + 9 := rfl
        omega
      rw [value_eq_ofDigitChars, Nat.ofDigitChars_cons,
        Nat.ofDigitChars_eq_ofDigitChars_zero, ← value_eq_ofDigitChars,
        List.length_cons, Nat.pow_succ]
      calc
        10 ^ rest.length * (10 * 0 + (c.toNat - '0'.toNat)) + value rest
            ≤ 10 ^ rest.length * 9 + value rest := by
              rw [Nat.mul_zero, Nat.zero_add]
              exact Nat.add_le_add_right (Nat.mul_le_mul_left _ hc) _
        _ < 10 ^ rest.length * 10 := by omega

theorem signed_of_nonneg {n : Int} (hn : 0 ≤ n) : signed n = digits n.toNat := by
  obtain ⟨m, rfl⟩ := Int.eq_ofNat_of_zero_le hn
  rfl

/-- The number that is written behind a minus sign, or without one. -/
def readSigned : List Char → Int
  | '-' :: cs => -value cs
  | cs => value cs

theorem readSigned_of_digits {cs : List Char} (hdigits : Digits cs) : readSigned cs = value cs := by
  unfold readSigned
  split
  · exact absurd (hdigits '-' List.mem_cons_self) (by decide)
  · rfl

theorem readSigned_signed (n : Int) : readSigned (signed n) = n := by
  cases n with
  | ofNat n =>
      rw [signed, readSigned_of_digits (digits_digits n), value_digits]
      rfl
  | negSucc n =>
      rw [signed, readSigned, value_digits]
      rfl

theorem mem_signed {n : Int} {c : Char} (hc : c ∈ signed n) : c = '-' ∨ c.isDigit = true := by
  cases n with
  | ofNat n => exact .inr (digits_digits n c hc)
  | negSucc n => exact (List.mem_cons.mp hc).imp_right (digits_digits (n + 1) c)

end Decimal

/-!
## Letters and the characters they stand for

A letter stands for at most one character, and a character is written by one letter.  So some
letters either write a text, or the code of one of them is half of a pair.  Characters always
write a text.
-/

theorem char?_eq_some_iff {n : Nat} {c : Char} : char? n = some c ↔ n = c.toNat := by
  unfold char?
  constructor
  · intro hc
    split at hc
    next hvalid =>
      obtain rfl := Option.some.inj hc
      exact (Char.toNat_ofNatAux hvalid).symm
    next => cases hc
  · rintro rfl
    have hvalid : c.toNat.isValidChar := c.valid
    rw [dif_pos hvalid]
    exact congrArg some (Char.toNat_inj.mp (Char.toNat_ofNatAux hvalid))

variable {α : Type} [Letter α] {letters : List α} {cs : List Char}

theorem Letter.code_eq_iff {letter : α} {c : Char} :
    code letter = c.toNat ↔ letter = ofChar c := by
  rw [← code_ofChar (α := α)]
  exact ⟨code_injective, congrArg code⟩

theorem chars?_cons (letter : α) (letters : List α) :
    chars? (letter :: letters) =
      (char? (Letter.code letter)).bind fun c => (chars? letters).map (c :: ·) := by
  simp only [chars?, List.map_cons, List.mapM_cons]
  cases char? (Letter.code letter) with
  | none => rfl
  | some c => cases (letters.map Letter.code).mapM char? <;> rfl

theorem chars?_eq_some_iff : chars? letters = some cs ↔ letters = cs.map Letter.ofChar := by
  induction letters generalizing cs with
  | nil =>
      rw [List.nil_eq, List.map_eq_nil_iff]
      exact ⟨fun hnil => (Option.some.inj hnil).symm, fun hnil => congrArg some hnil.symm⟩
  | cons letter letters ih =>
      rw [chars?_cons, Option.bind_eq_some_iff]
      constructor
      · rintro ⟨c, hc, hmore⟩
        obtain ⟨rest, hrest, rfl⟩ := Option.map_eq_some_iff.mp hmore
        rw [List.map_cons, ← ih.mp hrest, ← Letter.code_eq_iff.mp (char?_eq_some_iff.mp hc)]
      · intro hletters
        obtain ⟨c, rest, rfl, rfl, hrest⟩ := List.map_eq_cons_iff.mp hletters.symm
        refine ⟨c, char?_eq_some_iff.mpr (Letter.code_ofChar c), ?_⟩
        rw [ih.mpr hrest.symm]
        rfl

@[simp] theorem chars?_chars (cs : List Char) : chars? cs = some cs :=
  chars?_eq_some_iff.mpr (List.map_id cs).symm

theorem chars?_map_ofChar (cs : List Char) :
    chars? (cs.map (Letter.ofChar : Char → α)) = some cs := chars?_eq_some_iff.mpr rfl

/-- Half of a pair stands alone, so the letters write no text. -/
def HasHalf (letters : List α) : Prop := ∃ letter ∈ letters, char? (Letter.code letter) = none

theorem chars?_eq_none_iff : chars? letters = none ↔ HasHalf letters := by
  induction letters with
  | nil => simp [chars?, HasHalf]
  | cons letter letters ih =>
      rw [chars?_cons]
      unfold HasHalf at ih ⊢
      cases hchar : char? (Letter.code letter) with
      | none => simp [hchar]
      | some c => simp [hchar, ih]

/-- Letters are those of a text, or half of a pair is among them. -/
theorem hasHalf_or_text (letters : List α) :
    HasHalf letters ∨ ∃ cs : List Char, letters = cs.map Letter.ofChar := by
  cases hletters : chars? letters with
  | none => exact .inl (chars?_eq_none_iff.mp hletters)
  | some cs => exact .inr ⟨cs, chars?_eq_some_iff.mp hletters⟩

theorem HasHalf.ne_nil (hhalf : HasHalf letters) : letters ≠ [] := by
  rintro rfl
  obtain ⟨letter, hletter, -⟩ := hhalf
  cases hletter

/-- Half of a pair has a higher code than all characters that a string is cut at. -/
theorem char?_ne_none_of_lt {n : Nat} (hlow : n < 0xD800) : char? n ≠ none := by
  have hvalid : n.isValidChar := .inl hlow
  simp [char?, hvalid]

/-! ### The same letters -/

section Same

variable {β : Type} [Letter β] {f : α → β} (hf : ∀ x, Letter.code (f x) = Letter.code x)
include hf

theorem map_code_map (letters : List α) :
    (letters.map f).map Letter.code = letters.map Letter.code := by
  rw [List.map_map]
  exact List.map_congr_left fun x _ => hf x

theorem chars?_map (letters : List α) :
    chars? (letters.map f) = chars? letters := by
  rw [chars?, map_code_map hf, chars?]

theorem Loose.ofLetters_map (letters : List α) :
    Loose.ofLetters (letters.map f) = Loose.ofLetters letters := by
  rw [Loose.ofLetters, map_code_map hf, Loose.ofLetters]

theorem isBlank_map (x : α) :
    isBlank (f x) = isBlank x := by
  simp only [isBlank, isSpace, hf]

end Same

namespace Loose

theorem ofLetters_eq_text (htext : chars? letters = some cs) :
    ofLetters letters = text (String.ofList cs) := by
  have hcodes : chars? (letters.map Letter.code) = some cs := by
    rw [← htext]
    simp only [chars?, List.map_map]
    rfl
  unfold ofLetters ofCodes
  split
  next found hfound =>
    obtain rfl := Option.some.inj (hfound.symm.trans hcodes)
    rfl
  next hnone => cases hnone.symm.trans hcodes

theorem codes_ofCodes (codes : List Nat) : (ofCodes codes).codes = codes := by
  unfold ofCodes
  split
  next cs hcodes =>
    have htext : (text (String.ofList cs)).codes = cs.map Char.toNat := by
      rw [Loose.codes, String.toList_ofList]
    rw [htext]
    exact (chars?_eq_some_iff.mp hcodes).symm
  next => rfl

@[simp] theorem codes_ofLetters (letters : List α) :
    (ofLetters letters).codes = letters.map Letter.code := codes_ofCodes _

@[simp] theorem ofLetters_chars (cs : List Char) : ofLetters cs = text (String.ofList cs) :=
  ofLetters_eq_text (chars?_chars cs)

end Loose

/-!
## Trimmed strings

Trimming drops the letters of a class at both ends and nothing else.  A string
is its trimmed form between two runs of the class, and the trimmed form is the
only part of it that can stand there without such a letter at either end.
-/

variable {α : Type} {drop : α → Bool} {cs left right : List α}

/-- A string with no letter of a class at either end. -/
structure Bare (drop : α → Bool) (cs : List α) : Prop where
  head : ∀ c ∈ cs.head?, drop c = false
  last : ∀ c ∈ cs.getLast?, drop c = false

/-- A string without any letter of the class has none at its ends. -/
theorem Bare.of_forall (hnone : ∀ c ∈ cs, drop c = false) : Bare drop cs := by
  constructor
  · intro c hc
    exact hnone c (List.mem_of_mem_head? hc)
  · intro c hc
    exact hnone c (List.mem_of_mem_getLast? hc)

theorem Bare.reverse (hbare : Bare drop cs) : Bare drop cs.reverse := by
  constructor
  · simpa using hbare.last
  · simpa using hbare.head

theorem trim_eq_rdropWhile (drop : α → Bool) (cs : List α) :
    trim drop cs = (cs.dropWhile drop).rdropWhile drop := rfl

theorem dropWhile_of_head (hhead : ∀ c ∈ cs.head?, drop c = false) :
    cs.dropWhile drop = cs := by
  cases cs with
  | nil => rfl
  | cons c rest =>
      have hc : drop c = false := hhead c (by simp)
      rw [List.dropWhile_cons_of_neg (by simp [hc])]

theorem dropWhile_of_bare (hbare : Bare drop cs) : cs.dropWhile drop = cs :=
  dropWhile_of_head hbare.head

theorem trim_of_bare (hbare : Bare drop cs) : trim drop cs = cs := by
  unfold trim
  rw [dropWhile_of_bare hbare, dropWhile_of_bare hbare.reverse,
    List.reverse_reverse]

theorem trim_append_left (hleft : ∀ c ∈ left, drop c = true) :
    trim drop (left ++ cs) = trim drop cs := by
  unfold trim
  rw [List.dropWhile_append_of_pos hleft]

theorem trim_append_right (hright : ∀ c ∈ right, drop c = true) :
    trim drop (cs ++ right) = trim drop cs := by
  unfold trim
  rw [List.dropWhile_append]
  split
  next hempty =>
    -- Nothing but letters of the class: both sides are empty.
    have hcs : cs.dropWhile drop = [] := by simpa using hempty
    have hall : right.dropWhile drop = [] :=
      List.dropWhile_eq_nil_iff.mpr hright
    rw [hcs, hall]
  next =>
    rw [List.reverse_append,
      List.dropWhile_append_of_pos (by simpa using hright)]

/-- A string is its trimmed form between two runs of the class. -/
theorem exists_eq_append_trim (drop : α → Bool) (cs : List α) :
    ∃ left right, (∀ c ∈ left, drop c = true) ∧ (∀ c ∈ right, drop c = true) ∧
      cs = left ++ trim drop cs ++ right := by
  have hback : trim drop cs ++ (cs.dropWhile drop).rtakeWhile drop =
      cs.dropWhile drop := List.rdropWhile_append_rtakeWhile
  refine ⟨cs.takeWhile drop, (cs.dropWhile drop).rtakeWhile drop, ?_, ?_, ?_⟩
  · intro c hc
    exact List.mem_takeWhile_imp hc
  · intro c hc
    exact List.mem_rtakeWhile_imp hc
  · rw [List.append_assoc, hback, List.takeWhile_append_dropWhile]

theorem bare_trim (drop : α → Bool) (cs : List α) : Bare drop (trim drop cs) := by
  constructor
  · intro c hc
    have hprefix : trim drop cs <+: cs.dropWhile drop :=
      List.rdropWhile_prefix drop _
    have hhead : (cs.dropWhile drop).head? = some c := by
      obtain ⟨rest, hrest⟩ := hprefix
      rw [← hrest, List.head?_append, Option.mem_def.mp hc, Option.some_or]
    have hnot := List.head?_dropWhile_not drop cs
    rw [hhead] at hnot
    simpa using hnot
  · intro c hc
    rw [trim_eq_rdropWhile] at hc
    obtain ⟨hne, rfl⟩ := List.mem_getLast?_eq_getLast hc
    simpa using List.rdropWhile_last_not drop (cs.dropWhile drop) hne

theorem infix_of_infix_append {run : List α} (hleft : ∀ c ∈ left, drop c = true)
    (hhead : ∀ c ∈ run.head?, drop c = false) (hrun : run <:+: left ++ cs) : run <:+: cs := by
  induction left with
  | nil => exact hrun
  | cons c left ih =>
      obtain ⟨hc, hmore⟩ := List.forall_mem_cons.mp hleft
      rcases List.infix_cons_iff.mp hrun with hfirst | hrest
      · -- A run at the front would begin with a letter that is dropped.
        rcases List.prefix_cons_iff.mp hfirst with rfl | ⟨rest, rfl, -⟩
        · exact List.nil_infix
        · rw [hhead c (by simp)] at hc
          contradiction
      · exact ih hmore hrest

/-- A part of a string without such ends is not cut into. -/
theorem Bare.infix_trim {run : List α} (hbare : Bare drop run) (hrun : run <:+: cs) :
    run <:+: trim drop cs := by
  obtain ⟨left, right, hleft, hright, hcs⟩ := exists_eq_append_trim drop cs
  rw [hcs, List.append_assoc] at hrun
  have hfront := infix_of_infix_append hleft hbare.head hrun
  rw [← List.reverse_infix, List.reverse_append] at hfront
  have hback := infix_of_infix_append (by simpa using hright) hbare.reverse.head hfront
  rwa [List.reverse_infix] at hback

theorem trim_eq_self_iff : trim drop cs = cs ↔ Bare drop cs := by
  refine ⟨fun hself => ?_, trim_of_bare⟩
  rw [← hself]
  exact bare_trim drop cs

@[simp] theorem trim_trim (drop : α → Bool) (cs : List α) :
    trim drop (trim drop cs) = trim drop cs := trim_of_bare (bare_trim drop cs)

theorem length_trim_le (drop : α → Bool) (cs : List α) :
    (trim drop cs).length ≤ cs.length := by
  obtain ⟨left, right, -, -, hcs⟩ := exists_eq_append_trim drop cs
  have hlength := congrArg List.length hcs
  simp only [List.length_append] at hlength
  omega

theorem trim_eq_nil_iff : trim drop cs = [] ↔ ∀ c ∈ cs, drop c = true := by
  constructor
  · intro hnil
    obtain ⟨left, right, hleft, hright, hcs⟩ := exists_eq_append_trim drop cs
    rw [hnil, List.append_nil] at hcs
    rw [hcs]
    exact List.forall_mem_append.mpr ⟨hleft, hright⟩
  · intro hall
    have htrim : trim drop ([] ++ cs) = trim drop [] := trim_append_right hall
    simpa using htrim

theorem trim_map {β : Type} (drop : β → Bool) (f : α → β) (cs : List α) :
    trim drop (cs.map f) = (trim (drop ∘ f) cs).map f := by
  rw [trim, List.dropWhile_map, ← List.map_reverse, List.dropWhile_map, ← List.map_reverse]
  rfl

/-!
## The order of texts and of their bytes

Texts are compared character by character, and a store compares them byte by byte in
UTF-8.  Both orders are the same: of two different characters the one with the smaller
code has the smaller byte where their bytes first differ, whatever follows.
-/

namespace Utf8

theorem byteArray_toList (bytes : ByteArray) : bytes.toList = bytes.data.toList := by
  have hloop : ∀ i read, ByteArray.toList.loop bytes i read =
      read.reverse ++ bytes.data.toList.drop i := by
    intro i read
    fun_induction ByteArray.toList.loop bytes i read with
    | case1 i read hi ih =>
        have hplace : i < bytes.data.toList.length := by simpa using hi
        rw [ih, List.drop_eq_getElem_cons hplace]
        simp [ByteArray.get!, hi]
    | case2 i read hi =>
        rw [List.drop_eq_nil_of_le (by simpa using Nat.le_of_not_lt hi)]
        simp
  simp [ByteArray.toList, hloop]

/-- The bytes of a text are those of its characters in a row. -/
theorem encode_eq (text : String) : encode text = text.toList.flatMap String.utf8EncodeChar := by
  have hbytes : text.toUTF8 = text.toList.utf8Encode := by
    rw [← String.toByteArray_ofList, String.ofList_toList]
    rfl
  rw [encode, byteArray_toList, hbytes, List.utf8Encode, List.data_toByteArray, List.toList_toArray]

/-- A smaller number is smaller in its first digits or, if these are the same, in its last one. -/
theorem div_lt_or_mod_lt {m n : Nat} (hlt : m < n) :
    m / 64 < n / 64 ∨ m / 64 = n / 64 ∧ m % 64 < n % 64 := by
  omega

/-- Characters are told apart by the first of their bytes that differ. -/
theorem utf8EncodeChar_append_lt {c d : Char} (hlt : c < d) (xs ys : List UInt8) :
    String.utf8EncodeChar c ++ xs < String.utf8EncodeChar d ++ ys := by
  have hcodes : c.val.toNat < d.val.toNat := hlt
  have hbound : d.val.toNat < 0x110000 := by
    have hvalid := d.valid
    simp only [UInt32.isValidChar, Nat.isValidChar] at hvalid
    omega
  simp only [String.utf8EncodeChar]
  generalize c.val.toNat = m at hcodes ⊢
  generalize d.val.toNat = n at hcodes hbound ⊢
  by_cases hfour : 0xFFFF < m
  · -- Four bytes each: the first of the four digits that differ decides.
    have hm : ¬ m ≤ 0x7F ∧ ¬ m ≤ 0x7FF ∧ ¬ m ≤ 0xFFFF := by omega
    have hn : ¬ n ≤ 0x7F ∧ ¬ n ≤ 0x7FF ∧ ¬ n ≤ 0xFFFF := by omega
    have hthree : ∀ k, k / 262144 = k / 64 / 64 / 64 := by omega
    have htwo : ∀ k, k / 4096 = k / 64 / 64 := by omega
    simp only [hm, hn, if_false, List.cons_append, List.nil_append, List.cons_lt_cons_iff,
      UInt8.lt_iff_toNat_lt, ← UInt8.toNat_inj, UInt8.toNat_ofNat', hthree, htwo]
    rcases div_lt_or_mod_lt hcodes with hfirst | ⟨hfirst, hlast⟩
    · rcases div_lt_or_mod_lt hfirst with hsecond | ⟨hsecond, hlast⟩
      · rcases div_lt_or_mod_lt hsecond with hthird | ⟨hthird, hlast⟩
        · omega
        · rw [hthird]
          omega
      · rw [hsecond]
        omega
    · rw [hfirst]
      omega
  · -- Otherwise the number of bytes shows in the first byte, and there are at most three.
    split_ifs
    all_goals
      simp only [List.cons_append, List.nil_append, List.cons_lt_cons_iff,
        UInt8.lt_iff_toNat_lt, ← UInt8.toNat_inj, UInt8.toNat_ofNat']
      omega

theorem flatMap_utf8EncodeChar_lt {cs ds : List Char} (hlt : cs < ds) :
    cs.flatMap String.utf8EncodeChar < ds.flatMap String.utf8EncodeChar := by
  induction cs generalizing ds with
  | nil =>
      cases ds with
      | nil => exact absurd hlt (List.not_lt_nil [])
      | cons d ds =>
          have hfirst : String.utf8EncodeChar d ≠ [] := by
            rw [← List.length_pos_iff, String.length_utf8EncodeChar]
            exact d.utf8Size_pos
          obtain ⟨first, rest, hbytes⟩ := List.exists_cons_of_ne_nil hfirst
          rw [List.flatMap_nil, List.flatMap_cons, hbytes]
          exact List.nil_lt_cons _ _
  | cons c cs ih =>
      cases ds with
      | nil => exact absurd hlt (List.not_lt_nil _)
      | cons d ds =>
          rw [List.flatMap_cons, List.flatMap_cons]
          rcases List.cons_lt_cons_iff.mp hlt with hchar | ⟨rfl, hrest⟩
          · exact utf8EncodeChar_append_lt hchar _ _
          · exact List.append_left_lt (ih hrest)

theorem encode_lt {left right : String} (hlt : left < right) : encode left < encode right := by
  rw [encode_eq, encode_eq]
  exact flatMap_utf8EncodeChar_lt (String.lt_iff_toList_lt.mp hlt)

/-- Texts and their bytes are in the same order. -/
theorem encode_le_iff {left right : String} : encode left ≤ encode right ↔ left ≤ right := by
  constructor
  · intro hle
    by_contra hgreater
    exact hle (encode_lt (String.not_le.mp hgreater))
  · intro hle
    rcases lt_or_eq_of_le hle with hlt | rfl
    · exact List.le_of_lt (encode_lt hlt)
    · exact List.le_refl _

end Utf8
end Text
end Tabletop
