import CardServer.Proofs.Json.Integer
import CardServer.Proofs.Settings.Keys
import CardServer.Settings.File

/-! # Integers in settings

The readers of settings files make different things of the digits of a natural number: a text, an integer
if 64 bits with a sign hold it, or a rounded number if they do not.  `Writes` lists them.  In a variable
there is always a text.

* `integer?_of_isDecimal`   digits as an integer
* `real?_of_isDecimal`      digits as a rounded number
-/

namespace CardServer.Settings

open Json.Grammar (Digits)

/-- Digits that write a natural number; zeros in front are allowed. -/
def IsDecimal (digits : List Char) (n : Nat) : Prop :=
  Digits digits ∧ Nat.ofDigitChars 10 digits 0 = n

/-- What a variable or a settings file has where a natural number is written. -/
inductive Writes (n : Nat) : Scalar → Prop
  | digits {text : String} (h : IsDecimal text.toList n) : Writes n (.text text)
  | integer : Writes n (.int n)
  /-- A number that 64 bits with a sign do not hold, rounded in one step. -/
  | rounded (h : 9223372036854775808 ≤ n) : Writes n (.real (.ofDecimal false n 0))
  /-- A number that 64 bits do not hold, rounded as numerals in Json are. -/
  | numeral {digits : List Char} {x : Binary64} (h : IsDecimal digits n)
      (hx : Json.Numeral.value? ⟨false, digits, none, none⟩ = some (.real x)) :
      Writes n (.real (.finite x))

namespace Format

theorem digitValue?_of_isDigit {c : Char} (h : c.isDigit = true) :
    digitValue? 10 c = some (c.toNat - '0'.toNat) := by
  have hvalue := Json.Numeral.digitValue_le h
  rw [Json.digitValue] at hvalue
  simp only [digitValue?, h, if_true]
  rw [if_pos (by omega)]

theorem natural?_of_isDecimal {digits : List Char} {n : Nat} (h : IsDecimal digits n) :
    natural? 10 digits = some n := by
  obtain ⟨⟨hne, hall⟩, hvalue⟩ := h
  have hvalues : digits.mapM (digitValue? 10) = some (digits.map fun c => c.toNat - '0'.toNat) := by
    clear hne hvalue
    induction digits with
    | nil => rfl
    | cons c rest ih =>
      have ih := ih fun d hd => hall d (List.mem_cons_of_mem _ hd)
      rw [List.mapM_cons, digitValue?_of_isDigit (hall c (List.mem_cons_self ..)), ih]
      rfl
  have hfold : ∀ start, (digits.map fun c => c.toNat - '0'.toNat).foldl (fun n d => n * 10 + d) start =
      Nat.ofDigitChars 10 digits start := by
    clear hne hall hvalue hvalues
    induction digits with
    | nil => exact fun _ => rfl
    | cons c rest ih =>
      intro start
      rw [List.map_cons, List.foldl_cons, ih, Nat.ofDigitChars_cons, Nat.mul_comm]
  have hempty : digits.isEmpty = false := by simpa using hne
  simp only [natural?, hempty, Bool.false_eq_true, if_false, hvalues, Option.map_some, hfold, hvalue]

/-- Digits have no sign in front. -/
theorem splitSign_of_digits {digits : List Char} (h : Digits digits) :
    splitSign digits = (false, digits) := by
  unfold splitSign
  split
  · exact absurd (h.2 '-' (List.mem_cons_self ..)) (by decide)
  · exact absurd (h.2 '+' (List.mem_cons_self ..)) (by decide)
  · rfl

/-- An integer of 64 bits with a sign is read, a greater one is not. -/
theorem integer?_of_isDecimal {digits : List Char} {n : Nat} (h : IsDecimal digits n) :
    integer? 10 digits = if n < 9223372036854775808 then some (n : Int) else none := by
  have hbounds : (leastInteger ≤ (n : Int) ∧ (n : Int) ≤ greatestInteger) ↔
      n < 9223372036854775808 := by
    simp only [leastInteger, greatestInteger]
    omega
  simp only [integer?, splitSign_of_digits h.1, natural?_of_isDecimal h, bind, Option.bind_some, pure,
    Bool.false_eq_true, if_false, Option.map_some, Option.filter_some, hbounds, decide_eq_true_eq]

/-- A number without a fraction and an exponent is rounded in one step. -/
theorem decimal?_of_isDecimal {digits : List Char} {n : Nat} (h : IsDecimal digits n) :
    decimal? digits = some (.ofDecimal false n 0) := by
  have htake : digits.takeWhile Char.isDigit = digits := by
    have happend : (digits ++ []).takeWhile Char.isDigit = digits ++ [].takeWhile Char.isDigit :=
      List.takeWhile_append_of_pos h.1.2
    simpa using happend
  simp only [decimal?, splitSign_of_digits h.1, htake, List.drop_length, exponent?,
    List.append_nil, natural?_of_isDecimal h]
  rfl

/-- Digits are their own lower case. -/
theorem map_toLower_of_digits {text : String} (h : Digits text.toList) :
    text.map Char.toLower = text :=
  (Key.isName_of_identifier fun c hc => .inr (.inl (h.2 c hc))).map_toLower

/-- Digits are none of some texts that hold another character. -/
theorem ne_of_digits {text : String} (h : Digits text.toList) {word : String}
    (hword : word.toList.all Char.isDigit = false) : text ≠ word := by
  rintro rfl
  rw [List.all_eq_true.2 h.2] at hword
  nomatch hword

/-- Digits are neither an infinity nor the word for no number. -/
theorem real?_of_isDecimal {text : String} {n : Nat} (h : IsDecimal text.toList n) :
    real? text.toList = some (.ofDecimal false n 0) := by
  have hlower : String.ofList (text.toList.map Char.toLower) = text := by
    rw [← String.toList_map, map_toLower_of_digits h.1, String.ofList_toList]
  have hne : ∀ word : String, word.toList.all Char.isDigit = false → ¬ text = word :=
    fun word hword => ne_of_digits h.1 hword
  simp only [real?, splitSign_of_digits h.1, hlower, decimal?_of_isDecimal h]
  rw [if_neg, if_neg (hne _ (by decide))]
  exact fun hword => hword.elim (hne _ (by decide)) (hne _ (by decide))

end Format

end CardServer.Settings
