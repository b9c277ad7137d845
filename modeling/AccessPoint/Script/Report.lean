import AccessPoint.Lib.Json
import AccessPoint.Request.Grammar
import AccessPoint.Script.RunScript

/-!
# The report

The two `operator<<` of `APsim.cpp` write the readings of a round as the elements of one JSON
array, each text between two quotes as it is.

`report_iff` says which readings the report gives back to a reader of JSON: those without a quote
and a backslash in their texts. That two lists of readings do not print one report is true of all
that the access point can read, since a line is a reading and a name has no comma.
-/

namespace AccessPoint.Script

open Json

/-- `operator<<` of a `MeterReading`. -/
def MeterReading.print (mr : MeterReading) : StdString :=
  "\x7b\"meter\":\"".toList ++ mr.meterAddr ++ "\",\"data\":\"".toList ++ mr.meterData ++
    "\"\x7d".toList

/-- `operator<<` of a `std::vector<MeterReading>`: the first reading, and every other one behind
a comma and the end of a line. -/
def printReadings (readings : List MeterReading) : StdString :=
  let body := match readings with
    | [] => []
    | mr :: rest => mr.print ++ rest.flatMap fun mr => ",\n".toList ++ mr.print
  "\x7b\"meterdata\":[\n".toList ++ body ++ "\n]\x7d".toList

/-- The entry of one reading. -/
def MeterReading.entry (mr : MeterReading) : Json :=
  .obj [(codes "meter".toList, .str (codes mr.meterAddr)),
    (codes "data".toList, .str (codes mr.meterData))]

/-- The value of a report: an object with one array, of an entry for each reading in turn. -/
def reportValue (readings : List MeterReading) : Json :=
  .obj [(codes "meterdata".toList, .arr (readings.map MeterReading.entry))]

/-- A reading that the access point can make: a name its `Config` accepts, and visible data. -/
structure MeterReading.CanBeRead (mr : MeterReading) : Prop where
  name : Config.AcceptsName mr.meterAddr
  visible : mr.meterData.all isprint = true

/-- The report of the readings is read back as they are, and no other readings print it. -/
structure LosesNothing (readings : List MeterReading) : Prop where
  parses : Parses (printReadings readings) (reportValue readings)
  distinct : ∀ other : List MeterReading, (∀ mr ∈ other, mr.CanBeRead) →
    printReadings other = printReadings readings → other = readings

/-- Both texts of a reading stand for themselves. -/
def MeterReading.IsPlain (mr : MeterReading) : Prop :=
  Plain mr.meterAddr ∧ Plain mr.meterData

/-! ## The grammar on what is printed -/

/-- What the report has behind a reading: a line that ends, or a comma and a line that ends. -/
inductive EndsLine : StdString → Prop
  | last (t : StdString) : EndsLine ('\n' :: t)
  | more (t : StdString) : EndsLine (',' :: '\n' :: t)

/-- A name left open goes on to a comma and the quote behind it. -/
theorem unforgiving_name (t : StdString) : Unforgiving (',' :: '"' :: t) := by
  intro w r h
  cases h with
  | plain _ h =>
    cases h with
    | close => exact ⟨[], _, rfl, by decide⟩
    | plain hquote => exact absurd hquote (by decide)

/-- Data left open goes on to the end of the line, which no string holds. -/
theorem unforgiving_data {rest : StdString} (h : EndsLine rest) :
    Unforgiving ('\x7d' :: rest) := by
  intro w r hchars
  cases hchars with
  | plain _ hchars =>
    cases h with
    | last t =>
      cases hchars with
      | plain hline => exact absurd hline (by decide)
    | more t =>
      cases hchars with
      | plain _ hchars =>
        cases hchars with
        | plain hline => exact absurd hline (by decide)

/-- The printed reading, one member after the other. -/
theorem print_append (mr : MeterReading) (rest : StdString) :
    mr.print ++ rest = '\x7b' :: '"' :: ("meter".toList ++ '"' :: ':' :: '"' :: (mr.meterAddr ++
      '"' :: ',' :: '"' :: ("data".toList ++ '"' :: ':' :: '"' :: (mr.meterData ++
        '"' :: '\x7d' :: rest)))) := by
  unfold MeterReading.print
  simp

theorem plain_of_decide {s : StdString} (h : s.all isPlain = true) : Plain s :=
  fun c hc => List.all_eq_true.mp h c hc

/-- **One printed reading is read as its entry exactly when both its texts are plain.** -/
theorem value_print_iff {mr : MeterReading} {t rest r : StdString} (ht : skip t = mr.print ++ rest)
    (hrest : EndsLine rest) : Value t mr.entry r ↔ mr.IsPlain ∧ r = rest := by
  have hmeter : Plain "meter".toList := plain_of_decide (by decide)
  have hdata : Plain "data".toList := plain_of_decide (by decide)
  rw [print_append] at ht
  constructor
  · intro h
    obtain ⟨u, hopen, hmembers⟩ := value_obj_cons_iff.mp h
    rw [ht] at hopen
    cases hopen
    obtain ⟨u, u', hname, hcomma, hmembers⟩ := members_cons_iff.mp hmembers
    obtain ⟨hplain, rfl⟩ := (member_text_iff hmeter (unforgiving_name _)).mp hname
    rw [skip_cons (by decide)] at hcomma
    cases hcomma
    obtain ⟨u, hmember, hclose⟩ := members_singleton_iff.mp hmembers
    obtain ⟨hplain', rfl⟩ := (member_text_iff hdata (unforgiving_data hrest)).mp hmember
    rw [skip_cons (by decide)] at hclose
    cases hclose
    exact ⟨⟨hplain, hplain'⟩, rfl⟩
  · rintro ⟨⟨hplain, hplain'⟩, rfl⟩
    apply Value.obj ht
    apply Members.more
    · exact (member_text_iff hmeter (unforgiving_name _)).mpr ⟨hplain, rfl⟩
    · exact skip_cons (by decide)
    · apply Members.last
      · exact (member_text_iff hdata (unforgiving_data hrest)).mpr ⟨hplain', rfl⟩
      · exact skip_cons (by decide)

/-- The readings behind the first, and the end of the report. -/
def printRest (rest : List MeterReading) : StdString :=
  (rest.flatMap fun mr => ",\n".toList ++ mr.print) ++ "\n]\x7d".toList

theorem printRest_nil : printRest [] = '\n' :: ']' :: ['\x7d'] := rfl

theorem printRest_cons (mr : MeterReading) (rest : List MeterReading) :
    printRest (mr :: rest) = ',' :: '\n' :: (mr.print ++ printRest rest) := by
  simp only [printRest, List.flatMap_cons, List.append_assoc]
  rfl

theorem endsLine_printRest (rest : List MeterReading) : EndsLine (printRest rest) := by
  cases rest with
  | nil => exact .last _
  | cons mr rest =>
    rw [printRest_cons]
    exact .more _

/-- The printed readings are read as the elements of the array exactly when all are plain. -/
theorem elements_print_iff {mr : MeterReading} {rest : List MeterReading} {t r : StdString}
    (ht : skip t = mr.print ++ printRest rest) :
    Elements t ((mr :: rest).map MeterReading.entry) r ↔
      (∀ x ∈ mr :: rest, x.IsPlain) ∧ r = ['\x7d'] := by
  induction rest generalizing mr t with
  | nil =>
    rw [List.map_singleton, elements_singleton_iff, List.forall_mem_singleton]
    simp only [value_print_iff ht (endsLine_printRest [])]
    constructor
    · rintro ⟨u, ⟨hplain, rfl⟩, hclose⟩
      cases hclose
      exact ⟨hplain, rfl⟩
    · rintro ⟨hplain, rfl⟩
      exact ⟨_, ⟨hplain, rfl⟩, rfl⟩
  | cons mr' rest ih =>
    have hnext : skip ('\n' :: (mr'.print ++ printRest rest)) = mr'.print ++ printRest rest := by
      rw [print_append]
      rfl
    rw [List.map_cons, List.map_cons, elements_cons_iff, List.forall_mem_cons, and_assoc,
      ← ih hnext]
    simp only [value_print_iff ht (endsLine_printRest (mr' :: rest))]
    constructor
    · rintro ⟨u, u', ⟨hplain, rfl⟩, hcomma, helements⟩
      rw [printRest_cons, skip_cons (by decide)] at hcomma
      cases hcomma
      exact ⟨hplain, helements⟩
    · rintro ⟨hplain, helements⟩
      refine ⟨_, _, ⟨hplain, rfl⟩, ?_, helements⟩
      rw [printRest_cons, skip_cons (by decide)]

/-- The report, from the key of its one member on. -/
theorem printReadings_eq (readings : List MeterReading) :
    printReadings readings = '\x7b' :: '"' :: ("meterdata".toList ++ '"' :: ':' :: '[' :: '\n' ::
      match readings with
      | [] => '\n' :: ']' :: ['\x7d']
      | mr :: rest => mr.print ++ printRest rest) := by
  cases readings with
  | nil => rfl
  | cons mr rest =>
    unfold printReadings printRest
    simp

/-- **The report is read as its value exactly when all readings are plain.** -/
theorem parses_report_iff (readings : List MeterReading) :
    Parses (printReadings readings) (reportValue readings) ↔ ∀ mr ∈ readings, mr.IsPlain := by
  have hkey : Plain "meterdata".toList := plain_of_decide (by decide)
  have hopen : ∀ t, skip ('\x7b' :: t) = '\x7b' :: t := fun t => skip_cons (by decide)
  have hquote : ∀ t, skip ('"' :: t) = '"' :: t := fun t => skip_cons (by decide)
  have hcolon : ∀ t, skip (':' :: t) = ':' :: t := fun t => skip_cons (by decide)
  have harray : ∀ t, skip ('[' :: t) = '[' :: t := fun t => skip_cons (by decide)
  cases readings with
  | nil =>
    refine iff_of_true ⟨[], ?_, rfl⟩ (List.forall_mem_nil _)
    rw [printReadings_eq]
    have hvalue : Value ('[' :: '\n' :: '\n' :: ']' :: ['\x7d']) (.arr []) ['\x7d'] :=
      .arrEmpty (harray _) rfl
    have hmember := Member.mk (hquote _) (.of_plain hkey _) (hcolon _) hvalue
    exact .obj (hopen _) (.last hmember rfl)
  | cons mr rest =>
    have hnext : skip ('\n' :: (mr.print ++ printRest rest)) = mr.print ++ printRest rest := by
      rw [print_append]
      rfl
    constructor
    · rintro ⟨r, hvalue, -⟩
      rw [printReadings_eq] at hvalue
      obtain ⟨u, hu, hmembers⟩ := value_obj_cons_iff.mp hvalue
      rw [hopen] at hu
      cases hu
      obtain ⟨u, hmember, -⟩ := members_singleton_iff.mp hmembers
      obtain ⟨v, v', v'', hv, hchars, hv', hvalue⟩ := member_iff.mp hmember
      rw [hquote] at hv
      cases hv
      obtain ⟨-, rfl⟩ := hchars.eq_of_plain hkey
      rw [hcolon] at hv'
      cases hv'
      obtain ⟨v, hv, helements⟩ := value_arr_cons_iff.mp hvalue
      rw [harray] at hv
      cases hv
      exact ((elements_print_iff hnext).mp helements).1
    · intro hplain
      refine ⟨[], ?_, rfl⟩
      rw [printReadings_eq]
      have helements := (elements_print_iff (r := ['\x7d']) hnext).mpr ⟨hplain, rfl⟩
      have hmember := Member.mk (hquote _) (.of_plain hkey _) (hcolon _)
        (.arr (harray _) helements)
      exact .obj (hopen _) (.last hmember rfl)

/-! ## Distinct readings -/

section Distinct

variable {mr mr' : MeterReading}

/-- A printed reading has no end of a line in it. -/
theorem MeterReading.CanBeRead.newline_not_mem (h : mr.CanBeRead) : '\n' ∉ mr.print := by
  have hname : '\n' ∉ mr.meterAddr := fun hmem =>
    absurd (List.all_eq_true.mp h.name.spec.1 _ hmem) (by decide)
  have hdata : '\n' ∉ mr.meterData := fun hmem =>
    absurd (List.all_eq_true.mp h.visible _ hmem) (by decide)
  unfold MeterReading.print
  simp [hname, hdata]

theorem print_ends (mr : MeterReading) : ∃ t, mr.print = t ++ ['\x7d'] := by
  unfold MeterReading.print
  exact ⟨_, (List.append_assoc _ ['"'] ['\x7d']).symm⟩

/-- The first comma of a printed reading ends its name. -/
theorem MeterReading.CanBeRead.print_inj (h : mr.CanBeRead) (h' : mr'.CanBeRead)
    (heq : mr.print = mr'.print) : mr = mr' := by
  have hsplit : ∀ mr : MeterReading, mr.print =
      ("\x7b\"meter\":\"".toList ++ (mr.meterAddr ++ ['"'])) ++
        ',' :: ("\"data\":\"".toList ++ (mr.meterData ++ "\"\x7d".toList)) := by
    intro mr
    unfold MeterReading.print
    simp
  have hcomma : ∀ {mr : MeterReading}, mr.CanBeRead →
      ',' ∉ "\x7b\"meter\":\"".toList ++ (mr.meterAddr ++ ['"']) := by
    intro mr h
    simp [h.name.spec.2]
  rw [hsplit mr, hsplit mr'] at heq
  obtain ⟨hname, hdata⟩ := Delimited.field_inj (hcomma h) (hcomma h') heq
  have haddr : mr.meterAddr = mr'.meterAddr :=
    List.append_cancel_right (List.append_cancel_left hname)
  have hvalue : mr.meterData = mr'.meterData :=
    List.append_cancel_right (List.append_cancel_left hdata)
  cases mr
  cases mr'
  cases haddr
  cases hvalue
  rfl

/-- A line with a comma at its end is not one without. -/
theorem last_ne_more {t t' : StdString} (h : mr.CanBeRead) (h' : mr'.CanBeRead) :
    mr.print ++ '\n' :: t ≠ mr'.print ++ ',' :: '\n' :: t' := by
  intro heq
  have hmore : mr'.print ++ ',' :: '\n' :: t' = (mr'.print ++ [',']) ++ '\n' :: t' := by simp
  have hline : '\n' ∉ mr'.print ++ [','] := by simp [h'.newline_not_mem]
  rw [hmore] at heq
  obtain ⟨hprint, -⟩ := Delimited.field_inj h.newline_not_mem hline heq
  obtain ⟨t, ht⟩ := print_ends mr
  rw [ht] at hprint
  have hlast := (List.append_inj' hprint rfl).2
  exact absurd hlast (by decide)

/-- A line is a reading, so the lines say which readings were printed. -/
theorem printed_inj {rest rest' : List MeterReading} (h : ∀ x ∈ mr :: rest, x.CanBeRead)
    (h' : ∀ x ∈ mr' :: rest', x.CanBeRead)
    (heq : mr.print ++ printRest rest = mr'.print ++ printRest rest') :
    mr :: rest = mr' :: rest' := by
  have hfirst := h mr List.mem_cons_self
  have hfirst' := h' mr' List.mem_cons_self
  induction rest generalizing mr mr' rest' with
  | nil =>
    cases rest' with
    | nil =>
      obtain ⟨hprint, -⟩ := Delimited.field_inj hfirst.newline_not_mem hfirst'.newline_not_mem heq
      rw [hfirst.print_inj hfirst' hprint]
    | cons next rest' =>
      rw [printRest_nil, printRest_cons] at heq
      exact absurd heq (last_ne_more hfirst hfirst')
  | cons next rest ih =>
    cases rest' with
    | nil =>
      rw [printRest_nil, printRest_cons] at heq
      exact absurd heq.symm (last_ne_more hfirst' hfirst)
    | cons next' rest' =>
      have hline : ∀ {mr : MeterReading}, mr.CanBeRead → '\n' ∉ mr.print ++ [','] := by
        intro mr h
        simp [h.newline_not_mem]
      rw [printRest_cons, printRest_cons, List.append_cons, List.append_cons (mr'.print)] at heq
      obtain ⟨hprint, hrest⟩ := Delimited.field_inj (hline hfirst) (hline hfirst') heq
      have htail := fun x hx => h x (List.mem_cons_of_mem mr hx)
      have htail' := fun x hx => h' x (List.mem_cons_of_mem mr' hx)
      rw [hfirst.print_inj hfirst' (List.append_cancel_right hprint),
        ih htail htail' hrest (htail next List.mem_cons_self) (htail' next' List.mem_cons_self)]

/-- **Distinct lists of readings print distinct reports.** -/
theorem printReadings_inj {readings other : List MeterReading}
    (h : ∀ mr ∈ readings, mr.CanBeRead) (h' : ∀ mr ∈ other, mr.CanBeRead)
    (heq : printReadings other = printReadings readings) : other = readings := by
  rw [printReadings_eq, printReadings_eq] at heq
  have hbody := List.append_cancel_left (List.cons.inj (List.cons.inj heq).2).2
  simp only [List.cons.injEq, true_and] at hbody
  cases readings with
  | nil =>
    cases other with
    | nil => rfl
    | cons mr rest =>
      simp only [print_append] at hbody
      cases hbody
  | cons mr rest =>
    cases other with
    | nil =>
      simp only [print_append] at hbody
      cases hbody
    | cons mr' rest' => exact printed_inj h' h hbody

end Distinct

/-! ## What the report loses -/

/-- A visible text stands for itself when it has no quote and no backslash. -/
theorem plain_iff {s : StdString} (h : s.all isprint = true) : Plain s ↔ '"' ∉ s ∧ '\\' ∉ s := by
  constructor
  · intro hs
    exact ⟨fun hmem => absurd (hs _ hmem) (by decide), fun hmem => absurd (hs _ hmem) (by decide)⟩
  · rintro ⟨hquote, hbackslash⟩ c hc
    have hprint := List.all_eq_true.mp h c hc
    simp only [isprint, Bool.and_eq_true, decide_eq_true_eq] at hprint
    simp only [isPlain, ne_eq, Bool.and_eq_true, decide_eq_true_eq]
    refine ⟨⟨?_, ?_⟩, hprint.1⟩
    · rintro rfl
      exact hquote hc
    · rintro rfl
      exact hbackslash hc

/-- **The report loses nothing exactly when no name and no data has a quote or a backslash.** The
readings are any that the access point can make, as many as there are: names that its parser accepts
and data that is visible. Losing nothing is to be the JSON text of the readings, each with its name
and data in its place, and the text of no other readings. The second alone holds of all of them, and
it is the first that needs the condition. -/
theorem report_iff {readings : List MeterReading} (h : ∀ mr ∈ readings, mr.CanBeRead) :
    LosesNothing readings ↔ ∀ mr ∈ readings,
      ('"' ∉ mr.meterAddr ∧ '\\' ∉ mr.meterAddr) ∧ ('"' ∉ mr.meterData ∧ '\\' ∉ mr.meterData) := by
  have hplain : ∀ mr ∈ readings, (mr.IsPlain ↔
      ('"' ∉ mr.meterAddr ∧ '\\' ∉ mr.meterAddr) ∧
        ('"' ∉ mr.meterData ∧ '\\' ∉ mr.meterData)) := fun mr hmr =>
    and_congr (plain_iff (h mr hmr).name.spec.1) (plain_iff (h mr hmr).visible)
  rw [← forall₂_congr hplain, ← parses_report_iff]
  constructor
  · intro hloses
    exact hloses.parses
  · intro hparses
    exact ⟨hparses, fun other hother heq => printReadings_inj h hother heq⟩

/-- A meter whose data is a quote. -/
def quoting : MeterReading :=
  { meterAddr := "2001::2".toList, meterData := ['"'] }

theorem quoting_canBeRead : quoting.CanBeRead := by
  refine ⟨⟨"small,2001::2".toList, ⟨["2001::2".toList], some .small⟩, ?_, ?_⟩, ?_⟩ <;> decide

/-- The report of a quote is not JSON of it. -/
theorem not_report : ¬ ∀ readings : List MeterReading, (∀ mr ∈ readings, mr.CanBeRead) →
    LosesNothing readings := by
  intro h
  have hall : ∀ mr ∈ [quoting], mr.CanBeRead := List.forall_mem_singleton.mpr quoting_canBeRead
  have hplain := (parses_report_iff [quoting]).mp (h [quoting] hall).parses
  exact absurd ((hplain quoting List.mem_cons_self).2 '"' List.mem_cons_self) (by decide)

theorem report_iff_quoting : (∀ mr ∈ [quoting], mr.CanBeRead) ∧ (LosesNothing [quoting] ↔
    ∀ mr ∈ [quoting], ('"' ∉ mr.meterAddr ∧ '\\' ∉ mr.meterAddr) ∧
      ('"' ∉ mr.meterData ∧ '\\' ∉ mr.meterData)) :=
  ⟨List.forall_mem_singleton.mpr quoting_canBeRead,
    report_iff (List.forall_mem_singleton.mpr quoting_canBeRead)⟩

end AccessPoint.Script
