import AccessPoint.Lib.Lines
import AccessPoint.Lib.Stoi
import AccessPoint.Lib.Throwing
import AccessPoint.Request.Config

/-!
# The console

`AppBase` of `Linux.cpp`: the descriptor that the user's lines come from, in pieces of any size,
the buffer before it, and the prompts of the two menus. `ReadLine` gives its handler a line when
there is one, and no call at the end of the input; `GetLine` waits for a line and throws at the end.
Writing to the console does not fail.

`heard_lines` says that the lines go to the calls in order, whichever of the two asks and however
the input is cut. `getNumericInput_spec` says what a numeric prompt makes of the lines it gets, and
`answers_read_back` that the answers to the prompts of a command, typed one after another, go to the
prompts one by one.
-/

namespace AccessPoint

open Throwing Lines

/-- The console of an `AppBase`. -/
structure Console where
  input : Source Char
  output : StdString
  deriving DecidableEq, Repr

/-- Where the menu of an `AppBase` stands: its print is posted, it waits for a line, or no line will
come. -/
inductive Menu where
  | posted
  | reading
  | ended
  deriving DecidableEq, Repr

/-- What `GetLine` throws. -/
inductive ConsoleError where
  | endOfFile
  deriving DecidableEq, Repr

namespace AppBase

/-- A function that talks to the user. -/
abbrev Dialog := Call ConsoleError Console

/-- `PrintLine`. -/
def printLine (line : StdString) : Dialog Unit :=
  .assign fun s => { s with output := s.output ++ line }

/-- `GetLine`. -/
def getLine : Dialog StdString :=
  .of fun s =>
    match nextLine '\n' s.input with
    | (some line, input) => (.ok line, { s with input })
    | (none, input) => (.error .endOfFile, { s with input })

/-- `ReadLine` and its handler: the line that the caller's handler is called with, if it is. -/
def readLine : Dialog (Option StdString) :=
  .of fun s =>
    let (line, input) := nextLine '\n' s.input
    (.ok line, { s with input })

/-- A prompt as it is printed. -/
def prompt (promptText : StdString) : StdString :=
  promptText ++ ": ".toList

/-- What `GetNumericInput` takes a line for. -/
def numericAnswer (default : Int) (line : StdString) : Except Stoi.Failure Int :=
  if line.length ≠ 0 then Stoi.stoi line else .ok default

/-- What it says to a line that is no number. -/
def complaint : Stoi.Failure → StdString
  | .invalidArgument => "Input must be numeric!\n\n".toList
  | .outOfRange => "Input is too large!\n\n".toList

/-- The loop of `GetNumericInput`, for at most `fuel` prompts. -/
def getNumericInputUpTo (promptText : StdString) (default : Int) : Nat → Dialog Int
  | 0 => throw .endOfFile
  | fuel + 1 => do
    printLine (prompt promptText)
    let retVal ← getLine
    match numericAnswer default retVal with
    | .ok value => return value
    | .error failure =>
      printLine (complaint failure)
      getNumericInputUpTo promptText default fuel

/-- `GetNumericInput`. Every prompt takes a line, so the text that is left bounds their number. -/
def getNumericInput (promptText : StdString) (default : Int) : Dialog Int :=
  .of fun s => (getNumericInputUpTo promptText default (s.input.remaining.length + 1)).at s

/-- `GetStringInput`. -/
def getStringInput (promptText default : StdString) : Dialog StdString := do
  printLine (prompt promptText)
  let retVal ← getLine
  return if retVal.isEmpty then default else retVal

/-! ## Lines -/

/-- Which call asks for a line. -/
inductive Ask where
  | readLine
  | getLine
  deriving DecidableEq, Repr

/-- The line that a call gets. -/
def hear (s : Console) : Ask → Option StdString × Console
  | .readLine =>
    match readLine.at s with
    | (.ok line, s) => (line, s)
    | (.error _, s) => (none, s)
  | .getLine =>
    match getLine.at s with
    | (.ok line, s) => (some line, s)
    | (.error _, s) => (none, s)

/-- The lines that calls get, one after another. -/
def heard (s : Console) : List Ask → List (Option StdString) × Console
  | [] => ([], s)
  | ask :: asks =>
    let (line, s) := hear s ask
    let (lines, s) := heard s asks
    (line :: lines, s)

/-- Either call takes the next line. -/
theorem hear_eq (s : Console) (ask : Ask) :
    hear s ask = ((nextLine '\n' s.input).1, { s with input := (nextLine '\n' s.input).2 }) := by
  cases ask with
  | readLine => rfl
  | getLine =>
    unfold hear getLine Call.of Call.at
    dsimp only
    cases nextLine '\n' s.input with
    | mk line input =>
      cases line with
      | none => rfl
      | some line => rfl

/-- What a numeric prompt prints for the lines it turns down. -/
def transcript (promptText : StdString) (default : Int) (lines : List StdString) : StdString :=
  lines.flatMap fun line =>
    prompt promptText ++
      match numericAnswer default line with
      | .ok _ => []
      | .error failure => complaint failure

/-- A line that a numeric prompt turns down. -/
def TurnedDown (default : Int) (line : StdString) : Prop :=
  ∃ failure, numericAnswer default line = .error failure

/-- Which lines a numeric prompt takes, and for which number. -/
theorem numericAnswer_eq_ok_iff {default value : Int} {line : StdString} :
    numericAnswer default line = .ok value ↔
      (line = [] ∧ value = default) ∨ line ≠ [] ∧ Stoi.Reads line value ∧ Stoi.InRange value := by
  unfold numericAnswer
  cases line with
  | nil =>
    rw [if_neg (by decide)]
    constructor
    · intro h
      exact .inl ⟨rfl, by simpa using h.symm⟩
    · rintro (⟨-, rfl⟩ | ⟨hne, -⟩)
      · rfl
      · exact absurd rfl hne
  | cons c line =>
    rw [if_pos (by rw [List.length_cons]; exact Nat.succ_ne_zero _), Stoi.stoi_eq_ok_iff]
    constructor
    · exact fun h => .inr ⟨List.cons_ne_nil _ _, h⟩
    · rintro (⟨hnil, -⟩ | ⟨-, h⟩)
      · cases hnil
      · exact h

section Prompt

variable {s : Console} (promptText : StdString) (default : Int)

theorem printLine_at (line : StdString) :
    (printLine line).at s = (.ok (), { s with output := s.output ++ line }) := rfl

theorem getLine_of_none (h : split '\n' s.input.remaining = none) :
    ∃ input, input.remaining = s.input.remaining ∧
      ∀ output, getLine.at { s with output } = (.error .endOfFile, { input, output }) := by
  obtain ⟨hline, hrest⟩ := nextLine_of_none h
  refine ⟨_, hrest, fun output => ?_⟩
  unfold getLine Call.of Call.at
  dsimp only
  cases hnext : nextLine '\n' s.input with
  | mk line input =>
    rw [hnext] at hline
    obtain rfl : line = none := hline
    rfl

theorem getLine_of_some {line rest : StdString}
    (h : split '\n' s.input.remaining = some (line, rest)) :
    ∃ input, input.remaining = rest ∧
      ∀ output, getLine.at { s with output } = (.ok line, { input, output }) := by
  obtain ⟨hline, hrest⟩ := nextLine_of_some h
  refine ⟨_, hrest, fun output => ?_⟩
  unfold getLine Call.of Call.at
  dsimp only
  cases hnext : nextLine '\n' s.input with
  | mk line' input =>
    rw [hnext] at hline
    obtain rfl : line' = some line := hline
    rfl

/-- A prompt that gets no line throws. -/
theorem prompt_of_none (fuel : Nat) (h : split '\n' s.input.remaining = none) :
    ∃ input, input.remaining = s.input.remaining ∧
      (getNumericInputUpTo promptText default (fuel + 1)).at s =
        (.error .endOfFile, { input, output := s.output ++ prompt promptText }) := by
  obtain ⟨input, hrest, hget⟩ := getLine_of_none h
  refine ⟨input, hrest, ?_⟩
  rw [getNumericInputUpTo, at_bind, printLine_at]
  dsimp only
  rw [at_bind, hget]

/-- A prompt that gets a line takes it, or complains and asks again. -/
theorem prompt_of_some (fuel : Nat) {line rest : StdString}
    (h : split '\n' s.input.remaining = some (line, rest)) :
    ∃ input, input.remaining = rest ∧
      (getNumericInputUpTo promptText default (fuel + 1)).at s =
        match numericAnswer default line with
        | .ok value => (.ok value, { input, output := s.output ++ prompt promptText })
        | .error failure =>
          (getNumericInputUpTo promptText default fuel).at
            { input, output := s.output ++ prompt promptText ++ complaint failure } := by
  obtain ⟨input, hrest, hget⟩ := getLine_of_some h
  refine ⟨input, hrest, ?_⟩
  rw [getNumericInputUpTo, at_bind, printLine_at]
  dsimp only
  rw [at_bind, hget]
  dsimp only
  cases numericAnswer default line with
  | ok value => rfl
  | error failure => rfl

end Prompt

/-- **A numeric prompt that is answered**: after the lines it turns down it takes the first other
line, and leaves the ones behind it. -/
theorem numeric_answered (promptText : StdString) (default value : Int) {line : StdString}
    (hvalue : numericAnswer default line = .ok value) {downs rest : List StdString}
    (hdowns : ∀ down ∈ downs, TurnedDown default down) (fuel : Nat) (s : Console)
    (hfuel : s.input.remaining.length < fuel)
    (hlines : terminated '\n' s.input.remaining = downs ++ line :: rest) :
    ∃ input, (getNumericInputUpTo promptText default fuel).at s =
        (.ok value,
          { input
            output := s.output ++ transcript promptText default downs ++ prompt promptText }) ∧
      input.remaining = after '\n' (downs.length + 1) s.input.remaining := by
  induction downs generalizing fuel s with
  | nil =>
    obtain ⟨fuel, rfl⟩ : ∃ k, fuel = k + 1 := ⟨fuel - 1, by omega⟩
    cases hsplit : split '\n' s.input.remaining with
    | none =>
      rw [terminated_of_none hsplit] at hlines
      cases hlines
    | some p =>
      obtain ⟨first, remaining⟩ := p
      rw [terminated_of_split hsplit] at hlines
      obtain ⟨rfl, -⟩ := List.cons.inj hlines
      obtain ⟨input, hrest, hprompt⟩ := prompt_of_some promptText default fuel hsplit
      rw [hvalue] at hprompt
      refine ⟨input, ?_, ?_⟩
      · rw [hprompt, transcript, List.flatMap_nil, List.append_nil]
      · simp only [hrest, after, hsplit, List.length_nil]
  | cons down downs ih =>
    obtain ⟨fuel, rfl⟩ : ∃ k, fuel = k + 1 := ⟨fuel - 1, by omega⟩
    cases hsplit : split '\n' s.input.remaining with
    | none =>
      rw [terminated_of_none hsplit] at hlines
      cases hlines
    | some p =>
      obtain ⟨first, remaining⟩ := p
      rw [terminated_of_split hsplit] at hlines
      obtain ⟨rfl, hothers⟩ := List.cons.inj hlines
      obtain ⟨failure, hfailure⟩ := hdowns first List.mem_cons_self
      obtain ⟨input, hrest, hprompt⟩ := prompt_of_some promptText default fuel hsplit
      rw [hfailure] at hprompt
      have hlt := split_rest_length hsplit
      obtain ⟨input', hanswer, hremaining⟩ := ih
        (fun d hd => hdowns d (List.mem_cons_of_mem _ hd)) fuel
        { input, output := s.output ++ prompt promptText ++ complaint failure }
        (by rw [hrest]; omega) (by rw [hrest]; exact hothers)
      refine ⟨input', ?_, ?_⟩
      · rw [hprompt]
        dsimp only
        rw [hanswer]
        simp only [transcript, List.flatMap_cons, hfailure, List.append_assoc]
      · rw [hremaining, hrest]
        simp only [after, hsplit, List.length_cons]

/-- **A numeric prompt that is not answered** turns all lines down and throws. -/
theorem numeric_unanswered (promptText : StdString) (default : Int) (fuel : Nat) (s : Console)
    (hfuel : s.input.remaining.length < fuel)
    (hdowns : ∀ down ∈ terminated '\n' s.input.remaining, TurnedDown default down) :
    ∃ input, (getNumericInputUpTo promptText default fuel).at s =
        (.error .endOfFile,
          { input
            output := s.output ++
              transcript promptText default (terminated '\n' s.input.remaining) ++
              prompt promptText }) ∧
      input.remaining =
        after '\n' (terminated '\n' s.input.remaining).length s.input.remaining := by
  induction fuel generalizing s with
  | zero => exact absurd hfuel (Nat.not_lt_zero _)
  | succ fuel ih =>
    cases hsplit : split '\n' s.input.remaining with
    | none =>
      obtain ⟨input, hrest, hprompt⟩ := prompt_of_none promptText default fuel hsplit
      refine ⟨input, ?_, ?_⟩
      · rw [hprompt, terminated_of_none hsplit, transcript, List.flatMap_nil, List.append_nil]
      · rw [hrest, terminated_of_none hsplit]
        rfl
    | some p =>
      obtain ⟨first, remaining⟩ := p
      rw [terminated_of_split hsplit] at hdowns ⊢
      obtain ⟨failure, hfailure⟩ := hdowns first List.mem_cons_self
      obtain ⟨input, hrest, hprompt⟩ := prompt_of_some promptText default fuel hsplit
      rw [hfailure] at hprompt
      have hlt := split_rest_length hsplit
      obtain ⟨input', hanswer, hremaining⟩ := ih
        { input, output := s.output ++ prompt promptText ++ complaint failure }
        (by rw [hrest]; omega)
        (by rw [hrest]; exact fun d hd => hdowns d (List.mem_cons_of_mem _ hd))
      rw [hrest] at hanswer hremaining
      refine ⟨input', ?_, ?_⟩
      · rw [hprompt]
        dsimp only
        rw [hanswer]
        simp only [transcript, List.flatMap_cons, hfailure, List.append_assoc]
      · rw [hremaining]
        simp only [after, hsplit, List.length_cons]

/-- **What a numeric prompt makes of the lines that come**: it answers with the first line that is
empty or starts with an `int`, having complained of each line before it, and leaves what follows; if
there is no such line it throws, having complained of them all. The two cases are all there are,
since a line is turned down or answers. What is printed on the way is given in full. A line that
starts with a numeral answers whatever follows the numeral, as `std::stoi` has it. -/
theorem getNumericInput_spec (promptText : StdString) (default : Int) (s : Console) :
    (∀ downs line rest value, terminated '\n' s.input.remaining = downs ++ line :: rest →
      (∀ down ∈ downs, TurnedDown default down) →
      (line = [] ∧ value = default ∨
        line ≠ [] ∧ Stoi.Reads line value ∧ Stoi.InRange value) →
      ∃ input, (getNumericInput promptText default).at s =
          (.ok value,
            { input
              output := s.output ++ transcript promptText default downs ++ prompt promptText }) ∧
        input.remaining = after '\n' (downs.length + 1) s.input.remaining) ∧
    ((∀ down ∈ terminated '\n' s.input.remaining, TurnedDown default down) →
      ∃ input, (getNumericInput promptText default).at s =
          (.error .endOfFile,
            { input
              output := s.output ++
                transcript promptText default (terminated '\n' s.input.remaining) ++
                prompt promptText }) ∧
        input.remaining =
          after '\n' (terminated '\n' s.input.remaining).length s.input.remaining) := by
  refine ⟨?_, numeric_unanswered promptText default _ s (Nat.lt_succ_self _)⟩
  intro downs line rest value hlines hdowns hvalue
  exact numeric_answered promptText default value (numericAnswer_eq_ok_iff.mpr hvalue) hdowns _ s
    (Nat.lt_succ_self _) hlines

/-- A line that is no number and one that is too large, and the empty line that is taken. -/
theorem getNumericInput_spec_third :
    ((getNumericInput "Select".toList 6).at
        { input := { buffer := [], chunks := ["six\n99999".toList, "99999\n\n".toList] }
          output := [] }).1 = .ok 6 := by
  obtain ⟨input, hanswer, -⟩ := (getNumericInput_spec "Select".toList 6
    { input := { buffer := [], chunks := ["six\n99999".toList, "99999\n\n".toList] }
      output := [] }).1 ["six".toList, "9999999999".toList] [] [] 6 (by decide)
    (by
      intro down hmem
      simp only [List.mem_cons, List.not_mem_nil, or_false] at hmem
      rcases hmem with rfl | rfl
      · exact ⟨.invalidArgument, by decide⟩
      · exact ⟨.outOfRange, by decide⟩)
    (.inl ⟨rfl, rfl⟩)
  exact congrArg Prod.fst hanswer

/-! ## What is typed at several prompts -/

theorem getStringInput_of_some (promptText default : StdString) {s : Console}
    {line rest : StdString} (h : split '\n' s.input.remaining = some (line, rest)) :
    ∃ after, (getStringInput promptText default).at s =
        (.ok (if line.isEmpty then default else line), after) ∧
      after.input.remaining = rest := by
  obtain ⟨input, hrest, hget⟩ := getLine_of_some h
  refine ⟨{ input, output := s.output ++ prompt promptText }, ?_, hrest⟩
  rw [getStringInput, at_bind, printLine_at]
  dsimp only
  rw [at_bind, hget]
  rfl

/-- A prompt of a menu, with its default. -/
inductive Prompt where
  | numeric (promptText : StdString) (default : Int)
  | text (promptText default : StdString)
  deriving DecidableEq, Repr

/-- What a prompt gives. -/
inductive Answer where
  | number (value : Int)
  | text (value : StdString)
  deriving DecidableEq, Repr

/-- One prompt. -/
def askFor : Prompt → Dialog Answer
  | .numeric promptText default => do
    let value ← getNumericInput promptText default
    return .number value
  | .text promptText default => do
    let value ← getStringInput promptText default
    return .text value

/-- The prompts of a command, one after another. -/
def askForAll : List Prompt → Dialog (List Answer)
  | [] => return []
  | prompt :: prompts => do
    let answer ← askFor prompt
    let answers ← askForAll prompts
    return answer :: answers

/-- A line that stands for an answer to a prompt. -/
inductive Typed : Prompt → Answer → StdString → Prop where
  | number {promptText : StdString} {default value : Int} {line : StdString} :
      line ≠ [] → '\n' ∉ line → Stoi.Reads line value → Stoi.InRange value →
      Typed (.numeric promptText default) (.number value) line
  | defaultNumber {promptText : StdString} {default : Int} :
      Typed (.numeric promptText default) (.number default) []
  | text {promptText default line : StdString} : line ≠ [] → '\n' ∉ line →
      Typed (.text promptText default) (.text line) line
  | defaultText {promptText default : StdString} :
      Typed (.text promptText default) (.text default) []

theorem Typed.noNewline {prompt : Prompt} {answer : Answer} {line : StdString}
    (h : Typed prompt answer line) : '\n' ∉ line := by
  cases h with
  | number _ hline _ _ => exact hline
  | defaultNumber => exact List.not_mem_nil
  | text _ hline => exact hline
  | defaultText => exact List.not_mem_nil

/-- A number may be typed as its decimal text. -/
theorem Typed.decimal {promptText : StdString} {default value : Int} (h : Stoi.InRange value) :
    Typed (.numeric promptText default) (.number value) (Stoi.decimal value) := by
  have hdigits : ∀ n, '\n' ∉ Nat.toDigits 10 n ∧ Nat.toDigits 10 n ≠ [] := by
    intro n
    refine ⟨fun hmem => ?_, Nat.toDigits_ne_nil⟩
    exact absurd (Nat.isDigit_of_mem_toDigits (by omega) (by omega) hmem) (by decide)
  have hplain : '\n' ∉ Stoi.decimal value ∧ Stoi.decimal value ≠ [] := by
    unfold Stoi.decimal
    split
    next =>
      refine ⟨fun hmem => ?_, List.cons_ne_nil _ _⟩
      rcases List.mem_cons.mp hmem with heq | hmem
      · exact absurd heq (by decide)
      · exact (hdigits _).1 hmem
    next => exact hdigits _
  exact .number hplain.2 hplain.1 (Stoi.reads_decimal value) h

/-- A numeric prompt takes the line that is typed for it. -/
theorem getNumericInput_typed {promptText line rest : StdString} {default value : Int}
    (h : Typed (.numeric promptText default) (.number value) line) (s : Console)
    (htext : s.input.remaining = line ++ '\n' :: rest) :
    ∃ after, (getNumericInput promptText default).at s = (.ok value, after) ∧
      after.input.remaining = rest := by
  have hsplit := split_eq_some.mpr ⟨h.noNewline, htext⟩
  have hvalue : line = [] ∧ value = default ∨
      line ≠ [] ∧ Stoi.Reads line value ∧ Stoi.InRange value := by
    cases h with
    | number hne _ hreads hrange => exact .inr ⟨hne, hreads, hrange⟩
    | defaultNumber => exact .inl ⟨rfl, rfl⟩
  obtain ⟨input, hanswer, hremaining⟩ := numeric_answered promptText default value
    (numericAnswer_eq_ok_iff.mpr hvalue) (List.forall_mem_nil _) _ s (Nat.lt_succ_self _)
    (terminated_of_split hsplit)
  simp only [after, hsplit, List.length_nil] at hremaining
  exact ⟨_, hanswer, hremaining⟩

/-- And so does one for a text. -/
theorem getStringInput_typed {promptText default value line rest : StdString}
    (h : Typed (.text promptText default) (.text value) line) (s : Console)
    (htext : s.input.remaining = line ++ '\n' :: rest) :
    ∃ after, (getStringInput promptText default).at s = (.ok value, after) ∧
      after.input.remaining = rest := by
  obtain ⟨after, hanswer, hremaining⟩ := getStringInput_of_some promptText default
    (split_eq_some.mpr ⟨h.noNewline, htext⟩)
  refine ⟨after, ?_, hremaining⟩
  cases h with
  | text hne _ => rwa [if_neg (by rwa [List.isEmpty_iff])] at hanswer
  | defaultText => exact hanswer

/-- A prompt takes the line that is typed for it. -/
theorem askFor_typed {prompt : Prompt} {answer : Answer} {line rest : StdString}
    (h : Typed prompt answer line) (s : Console)
    (htext : s.input.remaining = line ++ '\n' :: rest) :
    ∃ after, (askFor prompt).at s = (.ok answer, after) ∧ after.input.remaining = rest := by
  cases prompt with
  | numeric promptText default =>
    obtain ⟨value, rfl⟩ : ∃ value, answer = .number value := by cases h <;> exact ⟨_, rfl⟩
    obtain ⟨after, hanswer, hremaining⟩ := getNumericInput_typed h s htext
    refine ⟨after, ?_, hremaining⟩
    rw [askFor, at_bind, hanswer]
    rfl
  | text promptText default =>
    obtain ⟨value, rfl⟩ : ∃ value, answer = .text value := by cases h <;> exact ⟨_, rfl⟩
    obtain ⟨after, hanswer, hremaining⟩ := getStringInput_typed h s htext
    refine ⟨after, ?_, hremaining⟩
    rw [askFor, at_bind, hanswer]
    rfl

/-- **What is typed is what the prompts of a command get**: lines that stand for the answers, one
for each prompt, are read as those answers in order, however the input is cut, and what is typed
behind them is left for the menu. An answer has many spellings, and any of them will do: decimal,
octal, hexadecimal, with blanks and a sign, or an empty line for the default. Lines that are turned
down first are in `getNumericInput_spec`. -/
theorem answers_read_back (dialog : List (Prompt × Answer × StdString))
    (htyped : ∀ entry ∈ dialog, Typed entry.1 entry.2.1 entry.2.2) (rest : StdString)
    (s : Console)
    (htext : s.input.remaining = dialog.flatMap (fun entry => entry.2.2 ++ ['\n']) ++ rest) :
    ∃ after, (askForAll (dialog.map (·.1))).at s = (.ok (dialog.map (·.2.1)), after) ∧
      after.input.remaining = rest := by
  induction dialog generalizing s with
  | nil => exact ⟨s, rfl, htext⟩
  | cons entry dialog ih =>
    obtain ⟨prompt, answer, line⟩ := entry
    have hcons : s.input.remaining =
        line ++ '\n' :: (dialog.flatMap (fun entry => entry.2.2 ++ ['\n']) ++ rest) := by
      rw [htext]
      simp only [List.flatMap_cons, List.append_assoc, List.cons_append, List.nil_append]
    obtain ⟨s', hanswer, hremaining⟩ := askFor_typed (htyped _ List.mem_cons_self) s hcons
    obtain ⟨s'', hanswers, hrest⟩ := ih
      (fun entry hmem => htyped entry (List.mem_cons_of_mem _ hmem)) s' hremaining
    refine ⟨s'', ?_, hrest⟩
    rw [List.map_cons, askForAll, at_bind, hanswer]
    dsimp only
    rw [at_bind, hanswers]
    rfl

/-- The prompts of a serial connection: an address in hexadecimal, whose beginning is buffered
already, the default port and a rate in decimal. -/
theorem answers_read_back_serial :
    ((askForAll [.numeric "Client Address (Default: 1)".toList 1,
      .text "Serial Port (Default: /tmp/ttyS11)".toList "/tmp/ttyS11".toList,
      .numeric "(Default: 6 - 9600)".toList 6]).at
        { input := { buffer := "0x".toList, chunks := ["1F\n\n1".toList, "0\n2\n".toList] }
          output := [] }).1 = .ok [.number 31, .text "/tmp/ttyS11".toList, .number 10] := by
  obtain ⟨after, hanswers, -⟩ := answers_read_back
    [(.numeric "Client Address (Default: 1)".toList 1, .number 31, "0x1F".toList),
      (.text "Serial Port (Default: /tmp/ttyS11)".toList "/tmp/ttyS11".toList,
        .text "/tmp/ttyS11".toList, []),
      (.numeric "(Default: 6 - 9600)".toList 6, .number 10, Stoi.decimal 10)]
    (by
      intro entry hmem
      simp only [List.mem_cons, List.not_mem_nil, or_false] at hmem
      rcases hmem with rfl | rfl | rfl
      · exact .number (by decide) (by decide) (Stoi.stoi_eq_ok_iff.mp (by decide)).1 (by decide)
      · exact .defaultText
      · exact .decimal (by decide))
    "2\n".toList
    { input := { buffer := "0x".toList, chunks := ["1F\n\n1".toList, "0\n2\n".toList] }
      output := [] }
    (by decide)
  exact congrArg Prod.fst hanswers

end AppBase

end AccessPoint
