import Mathlib.Data.List.Forall2
import Registrar.Department
import Registrar.Export

/-!
Reading exported grids back, as any reader of comma separated files does: commas between fields, a
carriage return and a line feed behind each record, and a field in quotes goes on to the first quote
that is not written twice. Main statements: the reader takes exactly the texts of this form, each of
which has one reading; and a grid reads back as its labels and the texts of its rows, whatever characters
stand in them.
-/

namespace Registrar.Export

/-- Where a reader stands. -/
inductive Spot where
  /-- In front of the first character of a field. -/
  | start
  /-- In a field without quotes. -/
  | plain
  | quoted
  /-- Right behind a quote that ends the field, unless another one follows. -/
  | closed
  /-- Behind the carriage return that ends a record. -/
  | ending
deriving DecidableEq, Repr

/-- The characters of the field in question, the fields in front of it, and the records before. -/
structure Reader where
  spot : Spot := .start
  text : List Char := []
  fields : List String := []
  records : List (List String) := []
deriving DecidableEq, Repr

namespace Reader

def put (spot : Spot) (c : Char) (r : Reader) : Reader := { r with spot, text := r.text ++ [c] }

def endField (r : Reader) : Reader :=
  { r with spot := .start, text := [], fields := r.fields ++ [String.ofList r.text] }

def endRecord (r : Reader) : Reader :=
  { records := r.records ++ [r.fields ++ [String.ofList r.text]] }

def step (r : Reader) (c : Char) : Option Reader :=
  match r.spot with
  | .quoted => if c = '"' then some { r with spot := .closed } else some (r.put .quoted c)
  | .ending => if c = '\n' then some r.endRecord else none
  | .start | .plain | .closed =>
    if c = ',' then some r.endField
    else if c = '\r' then some { r with spot := .ending }
    else if c = '\n' then none
    else if c = '"' then
      match r.spot with
      | .start => some { r with spot := .quoted }
      | .closed => some (r.put .quoted c)
      | _ => none
    else if r.spot = .closed then none
    else some (r.put .plain c)

theorem step_outside {r : Reader} (outside : r.spot ≠ .quoted ∧ r.spot ≠ .ending) (c : Char) :
    r.step c =
      if c = ',' then some r.endField
      else if c = '\r' then some { r with spot := .ending }
      else if c = '\n' then none
      else if c = '"' then
        match r.spot with
        | .start => some { r with spot := .quoted }
        | .closed => some (r.put .quoted c)
        | _ => none
      else if r.spot = .closed then none
      else some (r.put .plain c) := by
  unfold step
  cases spot : r.spot <;> simp_all

def run (r : Reader) (text : List Char) : Option Reader := text.foldlM step r

@[simp] theorem run_nil (r : Reader) : r.run [] = some r := rfl

@[simp] theorem run_cons (r : Reader) (c : Char) (text : List Char) :
    r.run (c :: text) = (r.step c).bind fun next => next.run text := List.foldlM_cons

theorem run_append (r : Reader) (before after : List Char) :
    r.run (before ++ after) = (r.run before).bind fun next => next.run after := List.foldlM_append

end Reader

/-- The records of a text in which each record has its line end. -/
def read? (text : String) : Option (List (List String)) :=
  match ({} : Reader).run text.toList with
  | some ⟨.start, [], [], records⟩ => some records
  | _ => none

def labels (s : Schema) : List String := (columns s).map Field.label

def texts (s : Schema) (row : Json.Value) : List String :=
  (columns s).map fun f => Row.textAt row f.name

/-- The fields of a record as they are read: a line without any fields shows a blank one. -/
def shown : List String → List String
  | [] => [""]
  | fields => fields

namespace Reader

variable {r : Reader}

/-- The reader has come to the end of a field with the given text. -/
structure HasRead (s : List Char) (r next : Reader) : Prop where
  spot : next.spot ≠ .quoted ∧ next.spot ≠ .ending
  text : next.text = s
  fields : next.fields = r.fields
  records : next.records = r.records

theorem HasRead.step_comma {s : List Char} {next : Reader} (h : HasRead s r next) :
    next.step ',' =
      some { fields := r.fields ++ [String.ofList s], records := r.records } := by
  obtain ⟨⟨unquoted, unended⟩, text, fields, records⟩ := h
  obtain ⟨spot, _, _, _⟩ := next
  cases spot <;> simp_all [step, endField]

theorem HasRead.run_lineEnd {s : List Char} {next : Reader} (h : HasRead s r next) :
    next.run ['\r', '\n'] =
      some { records := r.records ++ [r.fields ++ [String.ofList s]] } := by
  obtain ⟨⟨unquoted, unended⟩, text, fields, records⟩ := h
  obtain ⟨spot, _, _, _⟩ := next
  cases spot <;> simp_all [step, endRecord]

theorem run_plain {s : List Char} (plain : ∀ c ∈ s, isSpecial c = false)
    (outside : r.spot = .start ∨ r.spot = .plain) :
    ∃ next, r.run s = some next ∧ (next.spot = .start ∨ next.spot = .plain) ∧
      next.text = r.text ++ s ∧ next.fields = r.fields ∧ next.records = r.records := by
  induction s generalizing r with
  | nil => exact ⟨r, rfl, outside, by simp, rfl, rfl⟩
  | cons c s ih =>
    have special := plain c List.mem_cons_self
    simp only [isSpecial, Bool.or_eq_false_iff, beq_eq_false_iff_ne] at special
    obtain ⟨⟨⟨comma, quote⟩, feed⟩, back⟩ := special
    have taken : r.step c = some (r.put .plain c) := by
      unfold step
      rcases outside with h | h <;> simp [h, comma, quote, feed, back]
    obtain ⟨next, went, spot, text, fields, records⟩ := ih (r := r.put .plain c)
      (fun d hd => plain d (List.mem_cons_of_mem _ hd)) (.inr rfl)
    refine ⟨next, ?_, spot, ?_, fields, records⟩
    · rw [run_cons, taken, Option.bind_some, went]
    · rw [text, put, List.append_assoc, List.singleton_append]

theorem run_doubled (s : List Char) (quoted : r.spot = .quoted) :
    r.run (doubled s) = some { r with text := r.text ++ s } := by
  induction s generalizing r with
  | nil => simp [doubled]
  | cons c s ih =>
    obtain ⟨spot, text, fields, records⟩ := r
    subst quoted
    by_cases quote : c = '"'
    · subst quote
      simp [doubled, step, put, ih]
    · simp [doubled, step, put, quote, ih]

end Reader

/-- The text writes a field: as it is if no character needs quotes, or in quotes with each quote twice. -/
inductive WritesField (s : List Char) : List Char → Prop
  | plain (plain : ∀ c ∈ s, isSpecial c = false) : WritesField s s
  | quoted : WritesField s ('"' :: (doubled s ++ ['"']))

/-- The text writes a record: its fields with commas between them, and a line end. -/
inductive WritesRecord : List String → List Char → Prop
  | last {s : String} {text : List Char} : WritesField s.toList text →
      WritesRecord [s] (text ++ ['\r', '\n'])
  | more {s : String} {text : List Char} {rest : List String} {others : List Char} :
      WritesField s.toList text → WritesRecord rest others →
      WritesRecord (s :: rest) (text ++ ',' :: others)

/-- The text writes records one behind the other. -/
inductive WritesRecords : List (List String) → List Char → Prop
  | none : WritesRecords [] []
  | more {fields : List String} {text : List Char} {rest : List (List String)} {others : List Char} :
      WritesRecord fields text → WritesRecords rest others →
      WritesRecords (fields :: rest) (text ++ others)

namespace Reader

variable {r next : Reader}

theorem run_field {s text : List Char} (written : WritesField s text) (fresh : r.spot = .start)
    (empty : r.text = []) : ∃ next, r.run text = some next ∧ HasRead s r next := by
  cases written with
  | quoted =>
    -- The opening quote, the characters in between, and the quote that closes the field.
    have inside := run_doubled (r := { r with spot := .quoted }) s rfl
    refine ⟨{ r with spot := .closed, text := s }, ?_, by simp, rfl, rfl, rfl⟩
    have opened : r.step '"' = some { r with spot := .quoted } := by simp [step, fresh]
    rw [run_cons, opened, Option.bind_some, run_append, inside, empty]
    simp [step]
  | plain plain =>
    obtain ⟨next, went, spot, text, fields, records⟩ := run_plain plain (.inl fresh)
    refine ⟨next, went, ?_, by rw [text, empty, List.nil_append], fields, records⟩
    rcases spot with h | h <;> simp [h]

theorem run_record {fields : List String} {text : List Char} (written : WritesRecord fields text)
    (fresh : r.spot = .start) (empty : r.text = []) :
    r.run text = some { records := r.records ++ [r.fields ++ fields] } := by
  induction written generalizing r with
  | last written =>
    obtain ⟨next, went, read⟩ := run_field written fresh empty
    rw [run_append, went, Option.bind_some, read.run_lineEnd, String.ofList_toList]
  | more written _ ih =>
    obtain ⟨next, went, read⟩ := run_field written fresh empty
    rw [run_append, went, Option.bind_some, run_cons, read.step_comma, Option.bind_some, ih rfl rfl,
      String.ofList_toList]
    simp

theorem run_records {records : List (List String)} {text : List Char}
    (written : WritesRecords records text) (front : List (List String)) :
    ({ records := front } : Reader).run text = some { records := front ++ records } := by
  induction written generalizing front with
  | none => simp
  | more written _ ih =>
    rw [run_append, run_record written rfl rfl, Option.bind_some, ih]
    simp

/-- The characters that a reader has taken of a field at a spot. -/
inductive Part : Spot → List Char → List Char → Prop
  | start : Part .start [] []
  | plain {s : List Char} (plain : ∀ c ∈ s, isSpecial c = false) : Part .plain s s
  | quoted (s : List Char) : Part .quoted s ('"' :: doubled s)
  | closed (s : List Char) : Part .closed s ('"' :: (doubled s ++ ['"']))
  | ending {s text : List Char} (written : WritesField s text) : Part .ending s (text ++ ['\r'])

/-- The reader has taken a text: whole records, fields with a comma behind each, and a part of a field. -/
structure Took (r : Reader) (text : List Char) : Prop where
  parts : ∃ before fields part, text = before ++ fields.flatMap (· ++ [',']) ++ part ∧
    (∀ {rest others}, WritesRecords rest others →
      WritesRecords (r.records ++ rest) (before ++ others)) ∧
    List.Forall₂ (fun s text => WritesField s.toList text) r.fields fields ∧
    Part r.spot r.text part

theorem doubled_append (s t : List Char) : doubled (s ++ t) = doubled s ++ doubled t := by
  induction s with
  | nil => rfl
  | cons c s ih => by_cases quote : c = '"' <;> simp [doubled, quote, ih]

theorem Part.written {spot : Spot} {s part : List Char} (h : Part spot s part)
    (outside : spot ≠ .quoted ∧ spot ≠ .ending) : WritesField s part := by
  cases h with
  | start => exact .plain (by simp)
  | plain plain => exact .plain plain
  | quoted => simp at outside
  | closed => exact .quoted
  | ending => simp at outside

theorem Part.unquoted {spot : Spot} {s part : List Char} (h : Part spot s part)
    (outside : spot ≠ .quoted ∧ spot ≠ .ending) (unclosed : spot ≠ .closed) :
    (∀ c ∈ s, isSpecial c = false) ∧ part = s := by
  cases h with
  | start => simp
  | plain plain => exact ⟨plain, rfl⟩
  | quoted => simp at outside
  | closed => exact absurd rfl unclosed
  | ending => simp at outside

theorem Part.ended {s part : List Char} (h : Part .ending s part) :
    ∃ field, WritesField s field ∧ part = field ++ ['\r'] := by
  cases h with
  | ending written => exact ⟨_, written, rfl⟩

theorem writesRecord_append {fields rest : List String} {texts : List (List Char)}
    {others : List Char} (written : List.Forall₂ (fun s text => WritesField s.toList text) fields texts)
    (record : WritesRecord rest others) :
    WritesRecord (fields ++ rest) (texts.flatMap (· ++ [',']) ++ others) := by
  induction written with
  | nil => exact record
  | cons field _ ih => simpa using WritesRecord.more field ih

section Steps

variable {text : List Char} {c : Char}

theorem Took.grow {s : List Char} {spot : Spot} (took : r.Took text)
    (h : ∀ part, Part r.spot r.text part → Part spot s (part ++ [c])) :
    ({ r with spot, text := s } : Reader).Took (text ++ [c]) := by
  obtain ⟨before, fields, part, rfl, records, written, taken⟩ := took.parts
  exact ⟨before, fields, part ++ [c], by simp, records, written, h part taken⟩

theorem Took.endField (took : r.Took text) (outside : r.spot ≠ .quoted ∧ r.spot ≠ .ending) :
    r.endField.Took (text ++ [',']) := by
  obtain ⟨before, fields, part, rfl, records, written, taken⟩ := took.parts
  have field : WritesField (String.ofList r.text).toList part := by
    rw [String.toList_ofList]
    exact taken.written outside
  exact ⟨before, fields ++ [part], [], by simp, records,
    List.rel_append written (.cons field .nil), .start⟩

theorem Took.endRecord (took : r.Took text) (ending : r.spot = .ending) :
    r.endRecord.Took (text ++ ['\n']) := by
  obtain ⟨before, fields, part, rfl, records, written, taken⟩ := took.parts
  rw [ending] at taken
  obtain ⟨field, last, rfl⟩ := taken.ended
  have last : WritesField (String.ofList r.text).toList field := by
    rw [String.toList_ofList]
    exact last
  refine ⟨before ++ (fields.flatMap (· ++ [',']) ++ (field ++ ['\r', '\n'])), [], [], by simp,
    fun {rest others} more => ?_, .nil, .start⟩
  have record := records (.more (writesRecord_append written (.last last)) more)
  simpa [Reader.endRecord] using record

theorem took_quoted (took : r.Took text) (quoted : r.spot = .quoted) (h : r.step c = some next) :
    next.Took (text ++ [c]) := by
  simp only [step, quoted] at h
  split at h
  · next quote =>
    cases h
    refine took.grow fun part taken => ?_
    rw [quoted] at taken
    cases taken
    rw [quote]
    exact .closed _
  · next other =>
    cases h
    refine took.grow fun part taken => ?_
    rw [quoted] at taken
    cases taken
    simpa [doubled_append, doubled, other] using Part.quoted (r.text ++ [c])

theorem took_ending (took : r.Took text) (ending : r.spot = .ending) (h : r.step c = some next) :
    next.Took (text ++ [c]) := by
  simp only [step, ending] at h
  split at h
  · next feed =>
    cases h
    exact feed ▸ took.endRecord ending
  · cases h

theorem took_quote (took : r.Took text)
    (h : (match r.spot with
      | .start => some { r with spot := .quoted }
      | .closed => some (r.put .quoted '"')
      | _ => none) = some next) : next.Took (text ++ ['"']) := by
  split at h
  · next start =>
    cases h
    refine took.grow fun part taken => ?_
    rw [start] at taken
    generalize r.text = s at taken
    cases taken
    exact .quoted []
  · next closed =>
    cases h
    refine took.grow fun part taken => ?_
    rw [closed] at taken
    cases taken
    simpa [doubled_append, doubled] using Part.quoted (r.text ++ ['"'])
  · cases h

theorem took_outside (took : r.Took text) (outside : r.spot ≠ .quoted ∧ r.spot ≠ .ending)
    (h : r.step c = some next) : next.Took (text ++ [c]) := by
  rw [step_outside outside] at h
  split at h
  · next comma =>
    cases h
    exact comma ▸ took.endField outside
  split at h
  · next back =>
    cases h
    exact back ▸ took.grow fun part taken => .ending (taken.written outside)
  split at h
  · cases h
  split at h
  · next quote =>
    subst quote
    exact took_quote took h
  split at h
  · cases h
  next comma back feed quote unclosed =>
  cases h
  refine took.grow fun part taken => ?_
  obtain ⟨plain, rfl⟩ := taken.unquoted outside unclosed
  refine .plain (List.forall_mem_append.2 ⟨plain, List.forall_mem_singleton.2 ?_⟩)
  simp [isSpecial, comma, back, feed, quote]

theorem took_run {before : List Char} (took : r.Took before) (h : r.run text = some next) :
    next.Took (before ++ text) := by
  induction text generalizing r before with
  | nil =>
    cases h
    simpa using took
  | cons c text ih =>
    rw [run_cons] at h
    obtain ⟨middle, stepped, went⟩ := Option.bind_eq_some_iff.1 h
    have further : middle.Took (before ++ [c]) := by
      by_cases quoted : r.spot = .quoted
      · exact took_quoted took quoted stepped
      by_cases ending : r.spot = .ending
      · exact took_ending took ending stepped
      exact took_outside took ⟨quoted, ending⟩ stepped
    simpa using ih further went

end Steps
end Reader

/-- The reader takes exactly the texts that write records, and reads what they write. -/
theorem read?_eq_some_iff {text : String} {records : List (List String)} :
    read? text = some records ↔ WritesRecords records text.toList := by
  constructor
  · intro h
    unfold read? at h
    split at h
    · next found went =>
      cases h
      have nothing : ({} : Reader).Took [] :=
        ⟨[], [], [], rfl, fun written => written, .nil, .start⟩
      obtain ⟨before, fields, part, split, written, none, taken⟩ :=
        (Reader.took_run nothing went).parts
      cases none
      cases taken
      have all := written .none
      have same : text.toList = before := by simpa using split
      rw [same]
      simpa using all
    · cases h
  · intro written
    have went := Reader.run_records written []
    unfold read?
    rw [went]
    rfl

theorem writes_field (s : List Char) : WritesField s (field s) := by
  unfold field
  split
  · exact .quoted
  · next special => exact .plain (by simpa using special)

theorem writes_line (s : String) (rest : List String) : WritesRecord (s :: rest) (line (s :: rest)) := by
  induction rest generalizing s with
  | nil => simpa [line] using WritesRecord.last (writes_field s.toList)
  | cons t rest ih => simpa [line, List.intercalate] using WritesRecord.more (writes_field s.toList) (ih t)

theorem writes_lines (lines : List (List String)) :
    WritesRecords (lines.map shown) (lines.flatMap line) := by
  induction lines with
  | nil => exact .none
  | cons fields lines ih =>
    cases fields with
    | nil => exact .more (.last (.plain (by simp))) ih
    | cons s rest => exact .more (writes_line s rest) ih

theorem writes_ofRows (s : Schema) (rows : List Json.Value) :
    WritesRecords (shown (labels s) :: rows.map fun row => shown (texts s row))
      (ofRows s rows).text.toList := by
  have written := writes_lines (table s rows)
  rw [table, List.map_cons, List.map_map] at written
  rw [ofRows, String.toList_ofList]
  exact written

theorem read?_ofRows (s : Schema) (rows : List Json.Value) :
    read? (ofRows s rows).text =
      some (shown (labels s) :: rows.map fun row => shown (texts s row)) :=
  read?_eq_some_iff.2 (writes_ofRows s rows)

theorem shown_of_ne_nil {fields : List String} (h : fields ≠ []) : shown fields = fields := by
  cases fields with
  | nil => exact absurd rfl h
  | cons s rest => rfl

theorem columns_ne_nil {s : Schema} (rooted : Schema.root.own ∈ s.lineage) : columns s ≠ [] := by
  have named : Field.text "id" "ID" ∈ s.fields :=
    List.mem_flatMap.2 ⟨Schema.root.own, rooted, List.mem_cons_self⟩
  exact List.ne_nil_of_mem (List.mem_filter.2 ⟨named, by decide⟩)

variable {s : Schema}

theorem shown_labels (h : columns s ≠ []) : shown (labels s) = labels s :=
  shown_of_ne_nil (by simpa [labels] using h)

theorem shown_texts (h : columns s ≠ []) (row : Json.Value) : shown (texts s row) = texts s row :=
  shown_of_ne_nil (by simpa [texts] using h)

/-- Rows that show the same have the same texts, also where there are no columns to show. -/
theorem map_texts_of_shown {rows others : List Json.Value}
    (h : (others.map fun row => shown (texts s row)) = rows.map fun row => shown (texts s row)) :
    others.map (texts s) = rows.map (texts s) := by
  by_cases none : columns s = []
  · have blank : texts s = fun _ => [] := by
      funext row
      simp [texts, none]
    have count : others.length = rows.length := by simpa using congrArg List.length h
    rw [blank, List.map_const', List.map_const', count]
  · simpa only [shown_texts none] using h

/-- The text of a grid has one reading, its labels and one record for each row with the texts in the
columns; so grids with the same text have rows with the same texts. Without any columns, each line would
show a blank field, but every schema is built on the root. -/
theorem grids_read_back (s : Schema) (rows : List Json.Value) :
    (∀ records, WritesRecords records (ofRows s rows).text.toList ↔
      records = shown (labels s) :: rows.map fun row => shown (texts s row)) ∧
    (Schema.root.own ∈ s.lineage →
      read? (ofRows s rows).text = some (labels s :: rows.map (texts s))) ∧
    ∀ others, (ofRows s others).text = (ofRows s rows).text ↔
      others.map (texts s) = rows.map (texts s) := by
  refine ⟨fun records => ?_, fun rooted => ?_, fun others => ⟨fun same => ?_, fun same => ?_⟩⟩
  · rw [← read?_eq_some_iff, read?_ofRows, Option.some.injEq, eq_comm]
  · have some := columns_ne_nil rooted
    rw [read?_ofRows, shown_labels some]
    simp only [shown_texts some]
  · have read := read?_ofRows s others
    rw [same, read?_ofRows, Option.some.injEq, List.cons.injEq] at read
    exact map_texts_of_shown read.2.symm
  · have tables : table s others = table s rows := congrArg (labels s :: ·) same
    rw [ofRows, ofRows, tables]

/-- Has a comma, quotes and a line break, a column that is null and others that are missing. -/
def eastWing : Json.Value :=
  .ofPairs [("code", .text "a,b"), ("name", .text "the \"east\"\r\n wing"), ("parent", .null)]

theorem eastWing_reads_back :
    Schema.root.own ∈ Department.schema.lineage ∧
    read? (ofRows Department.schema [eastWing]).text =
      some [["Code", "Name", "Parent department", "Description", "Created by", "Created at", "ID"],
        ["a,b", "the \"east\"\r\n wing", "", "", "", "", ""]] := by
  have rooted : Schema.root.own ∈ Department.schema.lineage := by decide
  refine ⟨rooted, ?_⟩
  rw [(grids_read_back Department.schema [eastWing]).2.1 rooted]
  decide +kernel

end Registrar.Export
