import AccessPoint.Menu.Console

/-!
# What a dialog sees of the console

Of the text that is to come a dialog sees the complete lines, and neither how they are cut nor what
stands behind the last of them. The rules for `SeesOnly` say so of each call on the console, and
those for `Comes` say what a dialog comes to, as a function of the lines.
-/

namespace AccessPoint

open Throwing Lines

/-- The lines that are left. -/
def Console.lines (s : Console) : List StdString :=
  terminated '\n' s.input.remaining

/-- What is seen of a console: the lines that are left, and what has been printed. -/
def Console.sheet (s : Console) : List StdString × StdString :=
  (s.lines, s.output)

namespace AppBase

variable {α β : Type}

/-! ## The calls on the console -/

/-- Either call gets the first of the lines, if there is one, and leaves the others. -/
theorem hear_lines (s : Console) (ask : Ask) :
    (s.lines = [] ∧ (hear s ask).1 = none ∧ (hear s ask).2.sheet = s.sheet) ∨
      ∃ line rest, s.lines = line :: rest ∧ (hear s ask).1 = some line ∧
        (hear s ask).2.sheet = (rest, s.output) := by
  rw [hear_eq]
  cases hsplit : split '\n' s.input.remaining with
  | none =>
    obtain ⟨hline, hrest⟩ := nextLine_of_none hsplit
    refine .inl ⟨terminated_of_none hsplit, hline, ?_⟩
    rw [Console.sheet, Console.sheet, Console.lines, Console.lines, hrest]
  | some p =>
    obtain ⟨hline, hrest⟩ := nextLine_of_some hsplit
    refine .inr ⟨p.1, terminated '\n' p.2, terminated_of_split hsplit, hline, ?_⟩
    rw [Console.sheet, Console.lines, hrest]

theorem hear_alike {s t : Console} (h : s.sheet = t.sheet) (ask : Ask) :
    (hear s ask).1 = (hear t ask).1 ∧ (hear s ask).2.sheet = (hear t ask).2.sheet := by
  obtain ⟨hlines, houtput⟩ := Prod.mk.inj h
  rcases hear_lines s ask with ⟨hs, hline, hsheet⟩ | ⟨line, rest, hs, hline, hsheet⟩
  · rcases hear_lines t ask with ⟨-, hline', hsheet'⟩ | ⟨line', rest', ht, -, -⟩
    · exact ⟨hline.trans hline'.symm, hsheet.trans (h.trans hsheet'.symm)⟩
    · rw [← hlines, hs] at ht
      cases ht
  · rcases hear_lines t ask with ⟨ht, -, -⟩ | ⟨line', rest', ht, hline', hsheet'⟩
    · rw [← hlines, hs] at ht
      cases ht
    · rw [← hlines, hs] at ht
      obtain ⟨rfl, rfl⟩ := List.cons.inj ht
      exact ⟨hline.trans hline'.symm, by rw [hsheet, hsheet', houtput]⟩

/-- `GetLine` throws where a line is missing. -/
theorem getLine_hears (s : Console) :
    getLine.at s =
      ((hear s .getLine).1.elim (.error .endOfFile) .ok, (hear s .getLine).2) := by
  unfold hear
  dsimp only
  cases getLine.at s with
  | mk result after =>
    cases result with
    | ok line => rfl
    | error e => rfl

/-- The first line that a numeric prompt takes, as the number it takes it for, and those behind. -/
def firstNumber (default : Int) : List StdString → Option (Int × List StdString)
  | [] => none
  | line :: lines =>
    match numericAnswer default line with
    | .ok value => some (value, lines)
    | .error _ => firstNumber default lines

theorem firstNumber_cases (default : Int) (lines : List StdString) :
    (firstNumber default lines = none ∧ ∀ down ∈ lines, TurnedDown default down) ∨
      ∃ downs line rest value, lines = downs ++ line :: rest ∧
        (∀ down ∈ downs, TurnedDown default down) ∧ numericAnswer default line = .ok value ∧
          firstNumber default lines = some (value, rest) := by
  induction lines with
  | nil => exact .inl ⟨rfl, List.forall_mem_nil _⟩
  | cons line lines ih =>
    cases hanswer : numericAnswer default line with
    | ok value =>
      refine .inr ⟨[], line, lines, value, rfl, List.forall_mem_nil _, hanswer, ?_⟩
      rw [firstNumber, hanswer]
    | error failure =>
      have hdown : TurnedDown default line := ⟨failure, hanswer⟩
      rw [firstNumber, hanswer]
      rcases ih with ⟨hnone, hdowns⟩ | ⟨downs, first, rest, value, rfl, hdowns, hvalue, hfirst⟩
      · exact .inl ⟨hnone, List.forall_mem_cons.mpr ⟨hdown, hdowns⟩⟩
      · exact .inr ⟨line :: downs, first, rest, value, rfl,
          List.forall_mem_cons.mpr ⟨hdown, hdowns⟩, hvalue, hfirst⟩

/-- A numeric prompt that no line answers. -/
theorem getNumericInput_none {default : Int} {s : Console}
    (hdowns : ∀ down ∈ s.lines, TurnedDown default down) (promptText : StdString) :
    ((getNumericInput promptText default).at s).1 = .error .endOfFile ∧
      ((getNumericInput promptText default).at s).2.sheet =
        ([], s.output ++ transcript promptText default s.lines ++ prompt promptText) := by
  obtain ⟨input, hprompt, hrest⟩ :=
    numeric_unanswered promptText default _ s (Nat.lt_succ_self _) hdowns
  have hat : (getNumericInput promptText default).at s = _ := hprompt
  rw [hat]
  refine ⟨rfl, ?_⟩
  rw [Console.sheet, Console.lines, hrest, terminated_after, List.drop_length]
  rfl

/-- A numeric prompt that a line answers. -/
theorem getNumericInput_some {default value : Int} {s : Console} {line : StdString}
    {downs rest : List StdString} (hlines : s.lines = downs ++ line :: rest)
    (hdowns : ∀ down ∈ downs, TurnedDown default down)
    (hvalue : numericAnswer default line = .ok value) (promptText : StdString) :
    ((getNumericInput promptText default).at s).1 = .ok value ∧
      ((getNumericInput promptText default).at s).2.sheet =
        (rest, s.output ++ transcript promptText default downs ++ prompt promptText) := by
  obtain ⟨input, hprompt, hrest⟩ :=
    numeric_answered promptText default value hvalue hdowns _ s (Nat.lt_succ_self _) hlines
  have hat : (getNumericInput promptText default).at s = _ := hprompt
  have hleft : terminated '\n' s.input.remaining = (downs ++ [line]) ++ rest := by
    rw [List.append_assoc, List.singleton_append]
    exact hlines
  rw [hat]
  refine ⟨rfl, ?_⟩
  rw [Console.sheet, Console.lines, hrest, terminated_after, hleft,
    List.drop_left' (by rw [List.length_append, List.length_singleton])]

/-! ## What they see -/

theorem SeesOnly.printLine (line : StdString) :
    SeesOnly Console.sheet (printLine line) := by
  refine .assign fun s t h => ?_
  obtain ⟨hlines, houtput⟩ := Prod.mk.inj h
  exact Prod.ext hlines (congrArg (· ++ line) houtput)

theorem SeesOnly.getLine : SeesOnly Console.sheet getLine := by
  intro s t h
  obtain ⟨hline, hsheet⟩ := hear_alike h .getLine
  rw [getLine_hears, getLine_hears, hline]
  exact ⟨rfl, hsheet⟩

/-- **A numeric prompt sees only the lines**, however often it asks. -/
theorem SeesOnly.getNumericInput (promptText : StdString) (default : Int) :
    SeesOnly Console.sheet (getNumericInput promptText default) := by
  intro s t h
  obtain ⟨hlines, houtput⟩ := Prod.mk.inj h
  rcases firstNumber_cases default s.lines with
    ⟨-, hdowns⟩ | ⟨downs, line, rest, value, hs, hdowns, hvalue, -⟩
  · obtain ⟨hresult, hsheet⟩ := getNumericInput_none hdowns promptText
    obtain ⟨hresult', hsheet'⟩ := getNumericInput_none (hlines ▸ hdowns) promptText
    exact ⟨hresult.trans hresult'.symm, by rw [hsheet, hsheet', hlines, houtput]⟩
  · obtain ⟨hresult, hsheet⟩ := getNumericInput_some hs hdowns hvalue promptText
    obtain ⟨hresult', hsheet'⟩ :=
      getNumericInput_some (hlines.symm.trans hs) hdowns hvalue promptText
    exact ⟨hresult.trans hresult'.symm, by rw [hsheet, hsheet', houtput]⟩

theorem SeesOnly.getStringInput (promptText default : StdString) :
    SeesOnly Console.sheet (getStringInput promptText default) :=
  (SeesOnly.printLine _).bind fun () => SeesOnly.getLine.bind fun _ => .pure _

/-! ## What a dialog comes to -/

/-- What is read off the lines that are there, and the lines it leaves. -/
abbrev Reading := StateT (List StdString) Option

/-- The next line that is a number. -/
def Reading.number (default : Int) : Reading Int :=
  firstNumber default

/-- The next line. -/
def Reading.line : Reading StdString
  | [] => none
  | line :: lines => some (line, lines)

/-- The next line as a text. -/
def Reading.text (default : StdString) : Reading StdString := do
  let retVal ← Reading.line
  return if retVal.isEmpty then default else retVal

/-- The dialog gives what is read off the lines; where there are not enough it takes them all and
throws. -/
def Comes (dialog : Dialog α) (reading : Reading α) : Prop :=
  ∀ s : Console,
    (∀ a rest, reading.run s.lines = some (a, rest) →
      (dialog.at s).1 = .ok a ∧ (dialog.at s).2.lines = rest) ∧
    (reading.run s.lines = none →
      (dialog.at s).1 = .error .endOfFile ∧ (dialog.at s).2.lines = [])

theorem Comes.pure (a : α) : Comes (Pure.pure a) (Pure.pure a) := by
  intro s
  refine ⟨fun b rest h => ?_, nofun⟩
  obtain ⟨rfl, rfl⟩ := Prod.mk.inj (Option.some.inj h)
  exact ⟨rfl, rfl⟩

/-- What is printed first makes no difference. -/
theorem Comes.printLine {next : Dialog α} {reading : Reading α} (line : StdString)
    (h : Comes next reading) : Comes (printLine line >>= fun () => next) reading :=
  fun s => h { s with output := s.output ++ line }

theorem Comes.getLine : Comes getLine .line := by
  intro s
  rw [getLine_hears]
  rcases hear_lines s .getLine with ⟨hs, hline, hsheet⟩ | ⟨line, rest, hs, hline, hsheet⟩
  · have hleft : (hear s .getLine).2.lines = [] := (congrArg Prod.fst hsheet).trans hs
    rw [hs, hline]
    exact ⟨nofun, fun _ => ⟨rfl, hleft⟩⟩
  · rw [hs, hline]
    refine ⟨fun a others h => ?_, nofun⟩
    obtain ⟨rfl, rfl⟩ := Prod.mk.inj (Option.some.inj h)
    exact ⟨rfl, congrArg Prod.fst hsheet⟩

/-- **One dialog after another is one reading after another.** -/
theorem Comes.bind {dialog : Dialog α} {reading : Reading α} {next : α → Dialog β}
    {nextReading : α → Reading β} (h : Comes dialog reading)
    (hnext : ∀ a, Comes (next a) (nextReading a)) :
    Comes (dialog >>= next) (reading >>= nextReading) := by
  intro s
  obtain ⟨hsome, hnone⟩ := h s
  rw [StateT.run_bind, at_bind]
  cases hdialog : dialog.at s with
  | mk result after =>
    rw [hdialog] at hsome hnone
    cases hreading : reading.run s.lines with
    | none =>
      obtain ⟨hresult, hleft⟩ := hnone hreading
      obtain rfl : result = .error .endOfFile := hresult
      exact ⟨nofun, fun _ => ⟨rfl, hleft⟩⟩
    | some p =>
      obtain ⟨hresult, hlines⟩ := hsome p.1 p.2 hreading
      obtain rfl : result = .ok p.1 := hresult
      have hafter := hnext p.1 after
      rwa [show after.lines = p.2 from hlines] at hafter

theorem Comes.getNumericInput (promptText : StdString) (default : Int) :
    Comes (getNumericInput promptText default) (.number default) := by
  intro s
  rcases firstNumber_cases default s.lines with
    ⟨hnone, hdowns⟩ | ⟨downs, line, rest, value, hs, hdowns, hvalue, hfirst⟩
  · obtain ⟨hresult, hsheet⟩ := getNumericInput_none hdowns promptText
    refine ⟨fun a rest h => ?_, fun _ => ⟨hresult, congrArg Prod.fst hsheet⟩⟩
    cases hnone.symm.trans h
  · obtain ⟨hresult, hsheet⟩ := getNumericInput_some hs hdowns hvalue promptText
    refine ⟨fun a others h => ?_, fun h => ?_⟩
    · obtain ⟨rfl, rfl⟩ := Prod.mk.inj (Option.some.inj (hfirst.symm.trans h))
      exact ⟨hresult, congrArg Prod.fst hsheet⟩
    · cases hfirst.symm.trans h

theorem Comes.getStringInput (promptText default : StdString) :
    Comes (getStringInput promptText default) (.text default) :=
  .printLine _ (Comes.getLine.bind fun _ => .pure _)

end AppBase

end AccessPoint
