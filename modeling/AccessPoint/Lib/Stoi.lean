import Mathlib.Data.List.Basic
import Mathlib.Data.Nat.Notation

/-!
# Reading an integer off a text

`stoi` with the base 0, as the C++ standard library defines it in the C locale: white space, a sign,
a prefix that says the base, and as many digits of that base as there are. What follows them is left
alone. Without a digit there is nothing to convert, and a value that is no `int` is out of range.

- `stoi_eq_ok_iff`: which texts are read as which number.
- `reads_decimal`: the decimal text of an integer is read as the integer.
-/

namespace Stoi

/-- `isspace`. -/
def isSpace (c : Char) : Bool :=
  c = ' ' ∨ c = '\t' ∨ c = '\n' ∨ c = '\x0b' ∨ c = '\x0c' ∨ c = '\r'

/-- The value of a digit or a letter. -/
def digitValue (c : Char) : Option Nat :=
  if c.isDigit then some (c.toNat - '0'.toNat)
  else if 'a' ≤ c ∧ c ≤ 'z' then some (c.toNat - 'a'.toNat + 10)
  else if 'A' ≤ c ∧ c ≤ 'Z' then some (c.toNat - 'A'.toNat + 10)
  else none

/-- A digit of a base. -/
def isDigitOf (base : Nat) (c : Char) : Bool :=
  match digitValue c with
  | some value => value < base
  | none => false

/-- The value of a text of digits. -/
def valueOf (base : Nat) (digits : List Char) : Nat :=
  digits.foldl (fun value c => base * value + (digitValue c).getD 0) 0

/-- The sign, and what follows it. -/
def sign : List Char → Bool × List Char
  | '-' :: text => (true, text)
  | '+' :: text => (false, text)
  | text => (false, text)

/-- The base that a text shows, and the text of its digits. -/
def base : List Char → Nat × List Char
  | '0' :: x :: c :: text =>
    if (x = 'x' ∨ x = 'X') ∧ isDigitOf 16 c then (16, c :: text) else (8, '0' :: x :: c :: text)
  | '0' :: text => (8, '0' :: text)
  | text => (10, text)

/-- Why there is no value. -/
inductive Failure where
  | invalidArgument
  | outOfRange
  deriving DecidableEq, Repr

/-- An `int`. -/
def InRange (value : Int) : Prop :=
  -2147483648 ≤ value ∧ value < 2147483648

instance (value : Int) : Decidable (InRange value) :=
  inferInstanceAs (Decidable (_ ∧ _))

/-- A value with its sign. -/
def signed (negative : Bool) (value : Nat) : Int :=
  if negative then -(value : Int) else value

/-- `std::stoi(text, nullptr, 0)`. -/
def stoi (text : List Char) : Except Failure Int :=
  let (negative, unsigned) := sign (text.dropWhile isSpace)
  let (base, numeral) := base unsigned
  let digits := numeral.takeWhile (isDigitOf base)
  if digits.isEmpty then .error .invalidArgument
  else
    let value := signed negative (valueOf base digits)
    if InRange value then .ok value else .error .outOfRange

/-! ## What is read as a number -/

/-- A text goes on with nothing that `p` takes. -/
def Stops (p : Char → Bool) (rest : List Char) : Prop :=
  ∀ c ∈ rest.head?, p c = false

/-- What follows a `0` is no `x` with a digit behind it. -/
def NotHex (text : List Char) : Prop :=
  ∀ x c rest, text = x :: c :: rest → x = 'x' ∨ x = 'X' → isDigitOf 16 c = false

/-- A text starts with a number without a sign, in a base and with digits. -/
inductive Numeral : List Char → Nat → List Char → Prop where
  | decimal {c : Char} {digits rest : List Char} : c ≠ '0' →
      (∀ d ∈ c :: digits, isDigitOf 10 d = true) → Stops (isDigitOf 10) rest →
      Numeral (c :: digits ++ rest) 10 (c :: digits)
  | octal {digits rest : List Char} : (∀ d ∈ digits, isDigitOf 8 d = true) →
      Stops (isDigitOf 8) rest → NotHex (digits ++ rest) →
      Numeral ('0' :: digits ++ rest) 8 ('0' :: digits)
  | hex {x c : Char} {digits rest : List Char} : x = 'x' ∨ x = 'X' →
      (∀ d ∈ c :: digits, isDigitOf 16 d = true) → Stops (isDigitOf 16) rest →
      Numeral ('0' :: x :: (c :: digits ++ rest)) 16 (c :: digits)

/-- The signs that a number may have. -/
inductive Sign : List Char → Bool → Prop where
  | none : Sign [] false
  | plus : Sign ['+'] false
  | minus : Sign ['-'] true

/-- A text is read as a number: white space, a sign, and the longest numeral. -/
def Reads (text : List Char) (value : Int) : Prop :=
  ∃ blanks shown negative unsigned base digits,
    text = blanks ++ (shown ++ unsigned) ∧ (∀ c ∈ blanks, isSpace c = true) ∧
      Sign shown negative ∧ Numeral unsigned base digits ∧
      value = signed negative (valueOf base digits)

theorem takeWhile_of_stops {p : Char → Bool} {digits rest : List Char}
    (hdigits : ∀ c ∈ digits, p c = true) (hrest : Stops p rest) :
    (digits ++ rest).takeWhile p = digits := by
  rw [List.takeWhile_append_of_pos hdigits]
  cases rest with
  | nil => rw [List.takeWhile_nil, List.append_nil]
  | cons c rest =>
    have hstop : p c = false := hrest c rfl
    rw [List.takeWhile_cons_of_neg (by rw [hstop]; exact Bool.false_ne_true), List.append_nil]

theorem stops_dropWhile (p : Char → Bool) (text : List Char) : Stops p (text.dropWhile p) := by
  intro c hc
  have hnot := List.head?_dropWhile_not p text
  rw [Option.mem_def.mp hc] at hnot
  simpa using hnot

/-- The three kinds of a numeral. -/
theorem base_cases (unsigned : List Char) :
    (∃ x c text, unsigned = '0' :: x :: c :: text ∧ (x = 'x' ∨ x = 'X') ∧ isDigitOf 16 c = true ∧
      base unsigned = (16, c :: text)) ∨
    (∃ text, unsigned = '0' :: text ∧ NotHex text ∧ base unsigned = (8, unsigned)) ∨
      unsigned.head? ≠ some '0' ∧ base unsigned = (10, unsigned) := by
  unfold base
  split
  next x c text =>
    split
    next h => exact .inl ⟨x, c, text, rfl, h.1, h.2, rfl⟩
    next h =>
      refine .inr (.inl ⟨x :: c :: text, rfl, ?_, rfl⟩)
      intro x' c' rest heq hx
      obtain ⟨rfl, rfl, rfl⟩ : x = x' ∧ c = c' ∧ text = rest := by simpa using heq
      exact Bool.eq_false_iff.mpr fun hc => h ⟨hx, hc⟩
  next text hshort =>
    refine .inr (.inl ⟨text, rfl, ?_, rfl⟩)
    intro x c rest heq
    exact absurd heq (hshort x c rest)
  next text _ hother =>
    refine .inr (.inr ⟨?_, rfl⟩)
    intro hhead
    cases unsigned with
    | nil => cases hhead
    | cons c rest =>
      obtain rfl : c = '0' := by simpa using hhead
      exact hother rest rfl

/-- A numeral's text is taken for what it is. -/
theorem Numeral.base_eq {unsigned digits : List Char} {b : Nat} (h : Numeral unsigned b digits) :
    ∃ numeral, base unsigned = (b, numeral) ∧ numeral.takeWhile (isDigitOf b) = digits ∧
      digits ≠ [] := by
  cases h with
  | @decimal c digits rest hc hdigits hrest =>
    refine ⟨c :: digits ++ rest, ?_, takeWhile_of_stops hdigits hrest, List.cons_ne_nil _ _⟩
    obtain ⟨_, _, _, heq, -⟩ | ⟨_, heq, -⟩ | ⟨-, hbase⟩ := base_cases (c :: digits ++ rest)
    · exact absurd (List.cons.inj heq).1 hc
    · exact absurd (List.cons.inj heq).1 hc
    · exact hbase
  | @octal digits rest hdigits hrest hnot =>
    have hzero : ∀ d ∈ '0' :: digits, isDigitOf 8 d = true := by
      intro d hd
      rcases List.mem_cons.mp hd with rfl | hd
      · rfl
      · exact hdigits d hd
    refine ⟨'0' :: digits ++ rest, ?_, takeWhile_of_stops hzero hrest, List.cons_ne_nil _ _⟩
    obtain ⟨x, c, text, heq, hx, hc, -⟩ | ⟨_, -, -, hbase⟩ | ⟨hhead, -⟩ :=
      base_cases ('0' :: digits ++ rest)
    · rw [hnot x c text (List.cons.inj heq).2 hx] at hc
      cases hc
    · exact hbase
    · exact absurd rfl hhead
  | @hex x c digits rest hx hdigits hrest =>
    refine ⟨c :: digits ++ rest, ?_, takeWhile_of_stops hdigits hrest, List.cons_ne_nil _ _⟩
    obtain ⟨x', c', text, heq, -, -, hbase⟩ | ⟨text, heq, hnot, -⟩ | ⟨hhead, -⟩ :=
      base_cases ('0' :: x :: (c :: digits ++ rest))
    · rw [hbase, (List.cons.inj (List.cons.inj heq).2).2]
    · have hc := hnot x c (digits ++ rest) (List.cons.inj heq).2.symm hx
      rw [hdigits c List.mem_cons_self] at hc
      cases hc
    · exact absurd rfl hhead

/-- What is taken for a numeral is one. -/
theorem numeral_of_base {unsigned numeral : List Char} {b : Nat} (h : base unsigned = (b, numeral))
    (hne : numeral.takeWhile (isDigitOf b) ≠ []) :
    Numeral unsigned b (numeral.takeWhile (isDigitOf b)) := by
  have hall : ∀ d ∈ numeral.takeWhile (isDigitOf b), isDigitOf b d = true :=
    fun d hd => List.all_eq_true.mp List.all_takeWhile d hd
  have hstops := stops_dropWhile (isDigitOf b) numeral
  have hsplit : numeral.takeWhile (isDigitOf b) ++ numeral.dropWhile (isDigitOf b) = numeral :=
    List.takeWhile_append_dropWhile
  generalize numeral.dropWhile (isDigitOf b) = rest at hstops hsplit
  obtain ⟨c, digits, hdigits⟩ := List.exists_cons_of_ne_nil hne
  rw [hdigits] at hall hsplit ⊢
  obtain ⟨x, c', text, rfl, hx, -, hbase⟩ | ⟨text, rfl, hnot, hbase⟩ | ⟨hhead, hbase⟩ :=
    base_cases unsigned
  · obtain ⟨rfl, rfl⟩ : 16 = b ∧ c' :: text = numeral := by simpa using hbase.symm.trans h
    rw [← hsplit]
    exact .hex hx hall hstops
  · obtain ⟨rfl, rfl⟩ : 8 = b ∧ '0' :: text = numeral := by simpa using hbase.symm.trans h
    obtain ⟨rfl, htext⟩ := List.cons.inj hsplit
    rw [← htext] at hnot ⊢
    exact .octal (fun d hd => hall d (List.mem_cons_of_mem _ hd)) hstops hnot
  · obtain ⟨rfl, rfl⟩ : 10 = b ∧ unsigned = numeral := by simpa using hbase.symm.trans h
    rw [← hsplit] at hhead ⊢
    exact .decimal (fun hzero => hhead (by rw [hzero]; rfl)) hall hstops

/-! ## `stoi` -/

theorem Numeral.head {unsigned digits : List Char} {b : Nat} (h : Numeral unsigned b digits) :
    ∃ c rest, unsigned = c :: rest ∧ isDigitOf 10 c = true := by
  cases h with
  | @decimal c digits rest _ hdigits _ => exact ⟨c, _, rfl, hdigits c List.mem_cons_self⟩
  | octal _ _ _ => exact ⟨'0', _, rfl, rfl⟩
  | hex _ _ _ => exact ⟨'0', _, rfl, rfl⟩

/-- A digit is neither white space nor a sign. -/
theorem plain_of_digit {c : Char} (h : isDigitOf 10 c = true) :
    isSpace c = false ∧ c ≠ '-' ∧ c ≠ '+' := by
  refine ⟨?_, ?_, ?_⟩
  · by_contra hspace
    rw [Bool.not_eq_false, isSpace, decide_eq_true_eq] at hspace
    rcases hspace with rfl | rfl | rfl | rfl | rfl | rfl <;> cases h
  · rintro rfl
    cases h
  · rintro rfl
    cases h

theorem sign_of_plain {c : Char} {text : List Char} (hminus : c ≠ '-') (hplus : c ≠ '+') :
    sign (c :: text) = (false, c :: text) := by
  unfold sign
  split
  next h => exact absurd (List.cons.inj h).1 hminus
  next h => exact absurd (List.cons.inj h).1 hplus
  next => rfl

/-- The sign that is taken off a text is one, and stands before the rest. -/
theorem sign_spec (text : List Char) :
    ∃ shown, Sign shown (sign text).1 ∧ text = shown ++ (sign text).2 := by
  unfold sign
  split
  next text => exact ⟨['-'], .minus, rfl⟩
  next text => exact ⟨['+'], .plus, rfl⟩
  next => exact ⟨[], .none, rfl⟩

/-- White space and the sign are taken off a number. -/
theorem sign_of_numeral {blanks shown unsigned digits : List Char} {negative : Bool} {b : Nat}
    (hblanks : ∀ c ∈ blanks, isSpace c = true) (hshown : Sign shown negative)
    (h : Numeral unsigned b digits) :
    sign ((blanks ++ (shown ++ unsigned)).dropWhile isSpace) = (negative, unsigned) := by
  obtain ⟨c, rest, rfl, hdigit⟩ := h.head
  obtain ⟨hspace, hminus, hplus⟩ := plain_of_digit hdigit
  rw [List.dropWhile_append_of_pos hblanks]
  cases hshown with
  | none =>
    rw [List.nil_append, List.dropWhile_cons_of_neg (by rw [hspace]; exact Bool.false_ne_true)]
    exact sign_of_plain hminus hplus
  | plus => rfl
  | minus => rfl

theorem stoi_of_reads {text : List Char} {value : Int} (h : Reads text value) :
    stoi text = if InRange value then .ok value else .error .outOfRange := by
  obtain ⟨blanks, shown, negative, unsigned, b, digits, rfl, hblanks, hshown, hnumeral, rfl⟩ := h
  obtain ⟨numeral, hbase, hdigits, hne⟩ := hnumeral.base_eq
  unfold stoi
  simp only [sign_of_numeral hblanks hshown hnumeral, hbase, hdigits,
    if_neg (by rwa [List.isEmpty_iff] : ¬ digits.isEmpty = true)]

/-- A text that there is something to convert in is read as a number. -/
theorem reads_of_stoi {text : List Char} (h : stoi text ≠ .error .invalidArgument) :
    ∃ value, Reads text value := by
  obtain ⟨shown, hshown, htext⟩ := sign_spec (text.dropWhile isSpace)
  cases hbase : base (sign (text.dropWhile isSpace)).2 with
  | mk b numeral =>
    have hne : numeral.takeWhile (isDigitOf b) ≠ [] := by
      intro hnil
      refine h ?_
      unfold stoi
      simp only [hbase, hnil, List.isEmpty_nil, if_true]
    refine ⟨_, text.takeWhile isSpace, shown, _, _, b, _, ?_, ?_, hshown,
      numeral_of_base hbase hne, rfl⟩
    · rw [← htext, List.takeWhile_append_dropWhile]
    · exact fun c hc => List.all_eq_true.mp List.all_takeWhile c hc

/-- **Which texts are read as which number.** -/
theorem stoi_eq_ok_iff {text : List Char} {value : Int} :
    stoi text = .ok value ↔ Reads text value ∧ InRange value := by
  constructor
  · intro h
    obtain ⟨read, hread⟩ := reads_of_stoi (by rw [h]; exact nofun)
    rw [stoi_of_reads hread] at h
    split at h
    next hrange =>
      obtain rfl : read = value := by simpa using h
      exact ⟨hread, hrange⟩
    next => cases h
  · rintro ⟨hread, hrange⟩
    rw [stoi_of_reads hread, if_pos hrange]

/-! ## Decimal texts -/

/-- The decimal text of an integer. -/
def decimal (value : Int) : List Char :=
  if value < 0 then '-' :: Nat.toDigits 10 value.natAbs else Nat.toDigits 10 value.natAbs

theorem isDigitOf_ten {c : Char} (h : c.isDigit = true) : isDigitOf 10 c = true := by
  have hvalue : digitValue c = some (c.toNat - '0'.toNat) := if_pos h
  have hle : c.toNat ≤ '9'.toNat := by
    have hdigit := Char.isDigit_iff_toNat.mp h
    exact hdigit.2
  have hnine : '9'.toNat = 57 := rfl
  have hzero : '0'.toNat = 48 := rfl
  simp only [isDigitOf, hvalue, decide_eq_true_eq]
  omega

theorem valueOf_ten {digits : List Char} (h : ∀ c ∈ digits, c.isDigit = true) :
    valueOf 10 digits = Nat.ofDigitChars 10 digits 0 := by
  have hfold : ∀ (digits : List Char) (start : Nat), (∀ c ∈ digits, c.isDigit = true) →
      digits.foldl (fun value c => 10 * value + (digitValue c).getD 0) start =
        Nat.ofDigitChars 10 digits start := by
    intro digits
    induction digits with
    | nil => exact fun _ _ => Nat.ofDigitChars_nil.symm
    | cons c digits ih =>
      intro start hall
      have hvalue : digitValue c = some (c.toNat - '0'.toNat) :=
        if_pos (hall c List.mem_cons_self)
      rw [List.foldl_cons, Nat.ofDigitChars_cons, hvalue, Option.getD_some]
      exact ih _ fun d hd => hall d (List.mem_cons_of_mem _ hd)
  exact hfold digits 0 h

/-- A positive number's decimal text does not start with a `0`. -/
theorem toDigits_head {n : Nat} (h : 0 < n) :
    ∃ c digits, Nat.toDigits 10 n = c :: digits ∧ c ≠ '0' := by
  induction n using Nat.strongRecOn with
  | ind n ih =>
    rw [Nat.toDigits_eq_if (by omega)]
    split
    next hlt =>
      have hdigits : ∀ k < 10, 0 < k → Nat.digitChar k ≠ '0' := by decide
      exact ⟨_, [], rfl, hdigits n hlt h⟩
    next =>
      obtain ⟨c, digits, hhead, hc⟩ := ih (n / 10) (by omega) (by omega)
      exact ⟨c, digits ++ [Nat.digitChar (n % 10)], by rw [hhead, List.cons_append], hc⟩

/-- The decimal text of a number is a numeral of its value. -/
theorem numeral_toDigits (n : Nat) :
    ∃ b, Numeral (Nat.toDigits 10 n) b (Nat.toDigits 10 n) ∧
      valueOf b (Nat.toDigits 10 n) = n := by
  rcases Nat.eq_zero_or_pos n with rfl | hpos
  · refine ⟨8, ?_, rfl⟩
    exact @Numeral.octal [] [] nofun nofun nofun
  · obtain ⟨c, digits, hhead, hc⟩ := toDigits_head hpos
    have hall : ∀ d ∈ Nat.toDigits 10 n, d.isDigit = true :=
      fun d hd => Nat.isDigit_of_mem_toDigits (by omega) (by omega) hd
    refine ⟨10, ?_, ?_⟩
    · have hdecimal := @Numeral.decimal c digits [] hc
        (fun d hd => isDigitOf_ten (hall d (by rwa [hhead]))) nofun
      rwa [List.append_nil, ← hhead] at hdecimal
    · rw [valueOf_ten hall, Nat.ofDigitChars_ten_toDigits]

/-- **The decimal text of an integer is read as the integer.** -/
theorem reads_decimal (value : Int) : Reads (decimal value) value := by
  obtain ⟨b, hnumeral, hvalue⟩ := numeral_toDigits value.natAbs
  unfold decimal
  split
  next hneg =>
    refine ⟨[], ['-'], true, _, b, _, rfl, nofun, .minus, hnumeral, ?_⟩
    rw [hvalue, signed, if_pos rfl]
    omega
  next hnonneg =>
    refine ⟨[], [], false, _, b, _, rfl, nofun, .none, hnumeral, ?_⟩
    rw [hvalue, signed, if_neg Bool.false_ne_true]
    omega

end Stoi
