import Mathlib.Data.List.Basic

/-!
# The JSON grammar

The grammar is given by derivations: `Value t v r` says that the text `t` starts with the value `v`
and goes on with `r`. A string is the list of the numbers of its characters, of which an escape
gives one, and an object is the list of its members as they are written.

A writer that puts a text between two quotes as it is, is right for the texts that are `Plain`.
`chars_text_iff` says that it is right for no other, as long as what follows the closing quote
cannot make up for a backslash before it.
-/

/-- A JSON value. A number is kept as it is written. -/
inductive Json where
  | null
  | bool (b : Bool)
  | num (lexeme : List Char)
  | str (codes : List Nat)
  | arr (elements : List Json)
  | obj (members : List (List Nat × Json))

namespace Json

/-- The numbers of the characters of a text. -/
def codes (s : List Char) : List Nat :=
  s.map Char.toNat

/-! ## Tokens -/

/-- The four characters of white space. -/
def isSpace (c : Char) : Bool :=
  c = ' ' || c = '\t' || c = '\n' || c = '\r'

/-- The text from the first character that is not white space. -/
def skip (t : List Char) : List Char :=
  t.dropWhile isSpace

theorem skip_cons {c : Char} {t : List Char} (h : isSpace c = false) : skip (c :: t) = c :: t :=
  List.dropWhile_cons_of_neg (by simp [h])

/-- The escapes of one letter. -/
def escaped : Char → Option Nat
  | '"' => some 0x22
  | '\\' => some 0x5c
  | '/' => some 0x2f
  | 'b' => some 0x08
  | 'f' => some 0x0c
  | 'n' => some 0x0a
  | 'r' => some 0x0d
  | 't' => some 0x09
  | _ => none

/-- A hexadecimal digit. -/
def hexDigit (c : Char) : Option Nat :=
  if '0' ≤ c ∧ c ≤ '9' then some (c.toNat - 0x30)
  else if 'a' ≤ c ∧ c ≤ 'f' then some (c.toNat - 0x57)
  else if 'A' ≤ c ∧ c ≤ 'F' then some (c.toNat - 0x37)
  else none

/-- The four digits of a `\u` escape. -/
def hexFour (a b c d : Char) : Option Nat := do
  let a ← hexDigit a
  let b ← hexDigit b
  let c ← hexDigit c
  let d ← hexDigit d
  pure (((a * 16 + b) * 16 + c) * 16 + d)

/-- A character that stands for itself in a string. -/
def isPlain (c : Char) : Bool :=
  c ≠ '"' && c ≠ '\\' && 0x20 ≤ c.toNat

/-- The characters of a string, behind its opening quote and up to its closing one. -/
inductive Chars : List Char → List Nat → List Char → Prop
  | close {t : List Char} : Chars ('"' :: t) [] t
  | plain {c : Char} {t : List Char} {w : List Nat} {r : List Char} :
      isPlain c = true → Chars t w r → Chars (c :: t) (c.toNat :: w) r
  | escape {e : Char} {n : Nat} {t : List Char} {w : List Nat} {r : List Char} :
      escaped e = some n → Chars t w r → Chars ('\\' :: e :: t) (n :: w) r
  | unicode {a b c d : Char} {n : Nat} {t : List Char} {w : List Nat} {r : List Char} :
      hexFour a b c d = some n → Chars t w r →
        Chars ('\\' :: 'u' :: a :: b :: c :: d :: t) (n :: w) r

/-- One or more decimal digits. -/
def IsDigits (s : List Char) : Prop :=
  s ≠ [] ∧ ∀ c ∈ s, '0' ≤ c ∧ c ≤ '9'

/-- A number: an optional sign, an integer without leading zeros, and an optional fraction and
exponent. -/
def IsNumber (s : List Char) : Prop :=
  ∃ minus int frac exp, s = minus ++ int ++ frac ++ exp ∧
    (minus = [] ∨ minus = ['-']) ∧
    IsDigits int ∧ (int.head? = some '0' → int = ['0']) ∧
    (frac = [] ∨ ∃ digits, frac = '.' :: digits ∧ IsDigits digits) ∧
    (exp = [] ∨ ∃ e sign digits, exp = e :: (sign ++ digits) ∧ (e = 'e' ∨ e = 'E') ∧
      (sign = [] ∨ sign = ['+'] ∨ sign = ['-']) ∧ IsDigits digits)

/-! ## Values -/

mutual

/-- The text starts with a value. -/
inductive Value : List Char → Json → List Char → Prop
  | null {t r : List Char} : skip t = 'n' :: 'u' :: 'l' :: 'l' :: r → Value t .null r
  | true {t r : List Char} : skip t = 't' :: 'r' :: 'u' :: 'e' :: r → Value t (.bool true) r
  | false {t r : List Char} :
      skip t = 'f' :: 'a' :: 'l' :: 's' :: 'e' :: r → Value t (.bool false) r
  | num {t lexeme r : List Char} :
      skip t = lexeme ++ r → IsNumber lexeme → Value t (.num lexeme) r
  | str {t u : List Char} {w : List Nat} {r : List Char} :
      skip t = '"' :: u → Chars u w r → Value t (.str w) r
  | arrEmpty {t u r : List Char} : skip t = '[' :: u → skip u = ']' :: r → Value t (.arr []) r
  | arr {t u : List Char} {vs : List Json} {r : List Char} :
      skip t = '[' :: u → Elements u vs r → Value t (.arr vs) r
  | objEmpty {t u r : List Char} :
      skip t = '\x7b' :: u → skip u = '\x7d' :: r → Value t (.obj []) r
  | obj {t u : List Char} {ms : List (List Nat × Json)} {r : List Char} :
      skip t = '\x7b' :: u → Members u ms r → Value t (.obj ms) r

/-- The text starts with one or more elements and the closing bracket. -/
inductive Elements : List Char → List Json → List Char → Prop
  | last {t u r : List Char} {v : Json} : Value t v u → skip u = ']' :: r → Elements t [v] r
  | more {t u u' r : List Char} {v v' : Json} {vs : List Json} :
      Value t v u → skip u = ',' :: u' → Elements u' (v' :: vs) r → Elements t (v :: v' :: vs) r

/-- The text starts with one member of an object. -/
inductive Member : List Char → List Nat × Json → List Char → Prop
  | mk {t u u' u'' r : List Char} {k : List Nat} {v : Json} :
      skip t = '"' :: u → Chars u k u' → skip u' = ':' :: u'' → Value u'' v r → Member t (k, v) r

/-- The text starts with one or more members and the closing brace. -/
inductive Members : List Char → List (List Nat × Json) → List Char → Prop
  | last {t u r : List Char} {m : List Nat × Json} :
      Member t m u → skip u = '\x7d' :: r → Members t [m] r
  | more {t u u' r : List Char} {m m' : List Nat × Json} {ms : List (List Nat × Json)} :
      Member t m u → skip u = ',' :: u' → Members u' (m' :: ms) r → Members t (m :: m' :: ms) r

end

/-- The text is one value, with white space around it. -/
def Parses (t : List Char) (v : Json) : Prop :=
  ∃ r, Value t v r ∧ skip r = []

section Inversion

variable {t r : List Char} {v : Json} {vs : List Json} {m : List Nat × Json}
  {ms : List (List Nat × Json)}

theorem value_str_iff {w : List Nat} :
    Value t (.str w) r ↔ ∃ u, skip t = '"' :: u ∧ Chars u w r := by
  constructor
  · rintro (_ | _ | _ | _ | ⟨hopen, hchars⟩)
    exact ⟨_, hopen, hchars⟩
  · rintro ⟨u, hopen, hchars⟩
    exact .str hopen hchars

theorem value_arr_cons_iff :
    Value t (.arr (v :: vs)) r ↔ ∃ u, skip t = '[' :: u ∧ Elements u (v :: vs) r := by
  constructor
  · intro h
    cases h with
    | arr hopen helements => exact ⟨_, hopen, helements⟩
  · rintro ⟨u, hopen, helements⟩
    exact .arr hopen helements

theorem value_obj_cons_iff :
    Value t (.obj (m :: ms)) r ↔ ∃ u, skip t = '\x7b' :: u ∧ Members u (m :: ms) r := by
  constructor
  · intro h
    cases h with
    | obj hopen hmembers => exact ⟨_, hopen, hmembers⟩
  · rintro ⟨u, hopen, hmembers⟩
    exact .obj hopen hmembers

theorem elements_singleton_iff :
    Elements t [v] r ↔ ∃ u, Value t v u ∧ skip u = ']' :: r := by
  constructor
  · intro h
    cases h with
    | last hvalue hclose => exact ⟨_, hvalue, hclose⟩
  · rintro ⟨u, hvalue, hclose⟩
    exact .last hvalue hclose

theorem elements_cons_iff {v' : Json} : Elements t (v :: v' :: vs) r ↔
    ∃ u u', Value t v u ∧ skip u = ',' :: u' ∧ Elements u' (v' :: vs) r := by
  constructor
  · intro h
    cases h with
    | more hvalue hcomma helements => exact ⟨_, _, hvalue, hcomma, helements⟩
  · rintro ⟨u, u', hvalue, hcomma, helements⟩
    exact .more hvalue hcomma helements

theorem member_iff {k : List Nat} : Member t (k, v) r ↔
    ∃ u u' u'', skip t = '"' :: u ∧ Chars u k u' ∧ skip u' = ':' :: u'' ∧ Value u'' v r := by
  constructor
  · rintro ⟨hopen, hchars, hcolon, hvalue⟩
    exact ⟨_, _, _, hopen, hchars, hcolon, hvalue⟩
  · rintro ⟨u, u', u'', hopen, hchars, hcolon, hvalue⟩
    exact .mk hopen hchars hcolon hvalue

theorem members_singleton_iff :
    Members t [m] r ↔ ∃ u, Member t m u ∧ skip u = '\x7d' :: r := by
  constructor
  · intro h
    cases h with
    | last hmember hclose => exact ⟨_, hmember, hclose⟩
  · rintro ⟨u, hmember, hclose⟩
    exact .last hmember hclose

theorem members_cons_iff {m' : List Nat × Json} : Members t (m :: m' :: ms) r ↔
    ∃ u u', Member t m u ∧ skip u = ',' :: u' ∧ Members u' (m' :: ms) r := by
  constructor
  · intro h
    cases h with
    | more hmember hcomma hmembers => exact ⟨_, _, hmember, hcomma, hmembers⟩
  · rintro ⟨u, u', hmember, hcomma, hmembers⟩
    exact .more hmember hcomma hmembers

end Inversion

/-! ## Texts between two quotes -/

/-- Every character stands for itself. -/
def Plain (s : List Char) : Prop :=
  ∀ c ∈ s, isPlain c = true

/-- What follows a closing quote can end a string that a backslash before the quote leaves open in
no backslash. -/
def Unforgiving (t : List Char) : Prop :=
  ∀ w r, Chars t w r → ∃ w' n, w = w' ++ [n] ∧ n ≠ 0x5c

section Quoted

variable {s t r : List Char} {w : List Nat}

theorem Chars.of_plain (h : Plain s) (t : List Char) : Chars (s ++ '"' :: t) (codes s) t := by
  induction s with
  | nil => exact .close
  | cons c s ih =>
    rw [Plain, List.forall_mem_cons] at h
    exact .plain h.1 (ih h.2)

/-- A plain text is read in one way. -/
theorem Chars.eq_of_plain (hs : Plain s) (h : Chars (s ++ '"' :: t) w r) : w = codes s ∧ r = t := by
  induction s generalizing w with
  | nil =>
    cases h with
    | close => exact ⟨rfl, rfl⟩
    | plain hquote => exact absurd hquote (by decide)
  | cons c s ih =>
    rw [Plain, List.forall_mem_cons] at hs
    rw [List.cons_append] at h
    generalize htext : s ++ '"' :: t = text at h
    cases h with
    | close => exact absurd hs.1 (by decide)
    | plain _ hrest =>
      rw [← htext] at hrest
      obtain ⟨rfl, rfl⟩ := ih hs.2 hrest
      exact ⟨rfl, rfl⟩
    | escape | unicode => exact absurd hs.1 (by decide)

theorem hexFour_quote (a b c d : Char) :
    hexFour '"' b c d = none ∧ hexFour a '"' c d = none ∧ hexFour a b '"' d = none ∧
      hexFour a b c '"' = none := by
  have hquote : hexDigit '"' = none := by decide
  refine ⟨?_, ?_, ?_, ?_⟩ <;> simp [hexFour, hquote]

/-- The digits of an escape end before the quote that ends a text. -/
theorem text_of_unicode {a b c d : Char} {n : Nat} {t' : List Char}
    (hhex : hexFour a b c d = some n)
    (htext : s ++ '"' :: t = '\\' :: 'u' :: a :: b :: c :: d :: t') :
    ∃ s', s = '\\' :: 'u' :: a :: b :: c :: d :: s' ∧ s' ++ '"' :: t = t' := by
  obtain ⟨ha, hb, hc, hd⟩ := hexFour_quote a b c d
  match s with
  | [] => cases htext
  | [_] => cases htext
  | [_, _] =>
    cases htext
    rw [ha] at hhex
    cases hhex
  | [_, _, _] =>
    cases htext
    rw [hb] at hhex
    cases hhex
  | [_, _, _, _] =>
    cases htext
    rw [hc] at hhex
    cases hhex
  | [_, _, _, _, _] =>
    cases htext
    rw [hd] at hhex
    cases hhex
  | _ :: _ :: _ :: _ :: _ :: _ :: s =>
    simp only [List.cons_append] at htext
    cases htext
    exact ⟨s, rfl, rfl⟩

/-- **A string read from a text between two quotes** is shorter than the text, or is the text, which
is plain then, or the text ends in a backslash and the string goes on behind the quote. -/
theorem Chars.within_or_past (h : Chars (s ++ '"' :: t) w r) :
    w.length < s.length ∨ (Plain s ∧ w = codes s ∧ r = t) ∨
      ∃ s' w' w'', s = s' ++ ['\\'] ∧ w = w' ++ 0x22 :: w'' ∧ Chars t w'' r := by
  generalize htext : s ++ '"' :: t = text at h
  induction h generalizing s with
  | close =>
    cases s with
    | nil =>
      cases htext
      exact .inr (.inl ⟨List.forall_mem_nil _, rfl, rfl⟩)
    | cons c s => exact .inl (Nat.succ_pos _)
  | @plain c _ _ _ hplain hrest ih =>
    cases s with
    | nil =>
      cases htext
      exact absurd hplain (by decide)
    | cons _ s =>
      rw [List.cons_append] at htext
      cases htext
      rcases ih rfl with hlt | ⟨hs, rfl, rfl⟩ | ⟨s', w', w'', rfl, rfl, hpast⟩
      · exact .inl (Nat.succ_lt_succ hlt)
      · exact .inr (.inl ⟨List.forall_mem_cons.mpr ⟨hplain, hs⟩, rfl, rfl⟩)
      · exact .inr (.inr ⟨c :: s', c.toNat :: w', w'', rfl, rfl, hpast⟩)
  | @escape e _ _ _ _ hescape hrest ih =>
    cases s with
    | nil => cases htext
    | cons _ s =>
      cases s with
      | nil =>
        -- the backslash takes the closing quote with it
        cases htext
        cases hescape
        exact .inr (.inr ⟨[], [], _, rfl, rfl, hrest⟩)
      | cons _ s =>
        simp only [List.cons_append] at htext
        cases htext
        rcases ih rfl with hlt | ⟨hs, rfl, rfl⟩ | ⟨s', w', w'', rfl, rfl, hpast⟩
        · exact .inl (by simp only [List.length_cons]; omega)
        · exact .inl (by simp [codes])
        · exact .inr (.inr ⟨'\\' :: e :: s', _ :: w', w'', rfl, rfl, hpast⟩)
  | @unicode a b c d n _ _ _ hhex hrest ih =>
    obtain ⟨s, rfl, hs⟩ := text_of_unicode hhex htext
    rcases ih hs with hlt | ⟨hs, rfl, rfl⟩ | ⟨s', w', w'', rfl, rfl, hpast⟩
    · exact .inl (by simp only [List.length_cons]; omega)
    · exact .inl (by simp [codes])
    · exact .inr (.inr ⟨'\\' :: 'u' :: a :: b :: c :: d :: s', n :: w', w'', rfl, rfl, hpast⟩)

/-- **A text between two quotes is read back exactly when it is plain**, if what follows is
unforgiving. -/
theorem chars_text_iff (ht : Unforgiving t) :
    Chars (s ++ '"' :: t) (codes s) r ↔ Plain s ∧ r = t := by
  constructor
  · intro h
    rcases h.within_or_past with hlt | ⟨hs, -, hr⟩ | ⟨s', w', w'', rfl, hw, hpast⟩
    · simp [codes] at hlt
    · exact ⟨hs, hr⟩
    · obtain ⟨v, n, rfl, hn⟩ := ht w'' r hpast
      rw [codes, List.map_append, ← List.cons_append, ← List.append_assoc] at hw
      have hlast := (List.append_inj' hw rfl).2
      rw [List.map_singleton, List.singleton_inj] at hlast
      exact absurd hlast.symm hn
  · rintro ⟨hs, rfl⟩
    exact .of_plain hs r

/-- One member, with a plain key and a text between two quotes. -/
theorem member_text_iff {key : List Char} (hkey : Plain key) (ht : Unforgiving t) :
    Member ('"' :: (key ++ '"' :: ':' :: '"' :: (s ++ '"' :: t))) (codes key, .str (codes s)) r ↔
      Plain s ∧ r = t := by
  have hquote : ∀ u, skip ('"' :: u) = '"' :: u := fun u => skip_cons (by decide)
  have hcolon : ∀ u, skip (':' :: u) = ':' :: u := fun u => skip_cons (by decide)
  constructor
  · intro h
    obtain ⟨u, u', u'', hopen, hchars, hafter, hvalue⟩ := member_iff.mp h
    rw [hquote] at hopen
    cases hopen
    obtain ⟨-, rfl⟩ := hchars.eq_of_plain hkey
    rw [hcolon] at hafter
    cases hafter
    obtain ⟨u, hopen, hchars⟩ := value_str_iff.mp hvalue
    rw [hquote] at hopen
    cases hopen
    exact (chars_text_iff ht).mp hchars
  · intro h
    have hvalue : Value ('"' :: (s ++ '"' :: t)) (.str (codes s)) r :=
      .str (hquote _) ((chars_text_iff ht).mpr h)
    exact .mk (hquote _) (.of_plain hkey _) (hcolon _) hvalue

end Quoted

end Json
