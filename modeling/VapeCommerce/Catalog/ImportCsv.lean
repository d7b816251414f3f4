import VapeCommerce.Lib.Quoting
import VapeCommerce.Delivery.Csv

set_option autoImplicit false

-- catalog-import-parser.ts: the records of an uploaded CSV text, and the grammar they are read by.
namespace VapeCommerce.Catalog.ImportCsv

open VapeCommerce.Lib.Outcome VapeCommerce.Lib.Quoting VapeCommerce.Schema
open VapeCommerce.Delivery.Csv (unitLength)

section Parser

def maxCellLength : Nat := 2048

def catalogImportMaxRows : Nat := 2000

def cellTooLong : Failure := badRequest "CATALOG_IMPORT_CELL_TOO_LONG"

def csvInvalid : Failure := badRequest "CATALOG_IMPORT_CSV_INVALID"

def rowLimit : Failure := badRequest "CATALOG_IMPORT_ROW_LIMIT"

structure Scan where
  records : List (List Text)
  record : List Text
  cell : Text
  quoted : Bool

def Scan.initial : Scan where
  records := []
  record := []
  cell := []
  quoted := false

-- cell.replace(/\r$/, '')
def stripReturn (cell : Text) : Text :=
  if cell.getLast? = some '\r' then cell.dropLast else cell

def Scan.checked (scan : Scan) : Except Failure Scan := do
  throwIf (unitLength scan.cell > maxCellLength) cellTooLong
  return scan

def Scan.append (scan : Scan) (character : Char) : Except Failure Scan :=
  { scan with cell := scan.cell ++ [character] }.checked

def scanRecords (scan : Scan) : Text -> Except Failure (List (List Text))
  | [] => do
    throwIf scan.quoted csvInvalid
    if scan.cell.length > 0 || scan.record.length > 0 then
      return scan.records ++ [scan.record ++ [stripReturn scan.cell]]
    else return scan.records
  | character :: rest =>
    if scan.quoted then
      if character = '"' then
        match rest with
        | '"' :: later => do
          let next <- scan.append '"'
          scanRecords next later
        | later => do
          let next <- { scan with quoted := false }.checked
          scanRecords next later
      else do
        let next <- scan.append character
        scanRecords next rest
    else if character = '"' then do
      throwIf (scan.cell.length > 0) csvInvalid
      scanRecords { scan with quoted := true } rest
    else if character = ',' then
      scanRecords { scan with record := scan.record ++ [scan.cell], cell := [] } rest
    else if character = '\n' then do
      let records := scan.records ++ [scan.record ++ [stripReturn scan.cell]]
      throwIf (records.length > catalogImportMaxRows + 1) rowLimit
      scanRecords { scan with records, record := [], cell := [] } rest
    else do
      let next <- scan.append character
      scanRecords next rest

def parseCsvRecords (text : Text) : Except Failure (List (List Text)) :=
  scanRecords Scan.initial text

end Parser

section Grammar

def Ordinary (char : Char) : Prop :=
  char ≠ '"' /\ char ≠ ',' /\ char ≠ '\n'

structure Plain where
  chars : Text
  ordinary : forall char, char ∈ chars -> Ordinary char

-- A cell as it is spelled, and its content.
inductive Cell : Text -> Text -> Prop
  | plain (text : Plain) : Cell text.chars text.chars
  | quoted (content : Text) : Cell ('"' :: doubled '"' content ++ ['"']) content

-- A carriage return in front of a line feed belongs to the line end.
def LineEnd (cell ending : Text) : Prop :=
  ending = ['\r', '\n'] \/ ending = ['\n'] /\ cell.getLast? ≠ some '\r'

/-- The records of a text, `continued` behind the comma of one. The last line end is optional:
nothing behind it is no further record. -/
inductive Records : Bool -> Text -> List (List Text) -> Prop
  | none : Records false [] []
  | last {continued : Bool} {cell content : Text} (spelled : Cell cell content)
      (some : continued = true \/ cell ≠ []) : Records continued cell [[content]]
  | comma {continued : Bool} {cell content rest : Text} {record : List Text}
      {records : List (List Text)} (spelled : Cell cell content)
      (later : Records true rest (record :: records)) :
      Records continued (cell ++ ',' :: rest) ((content :: record) :: records)
  | line {continued : Bool} {cell content ending rest : Text} {records : List (List Text)}
      (spelled : Cell cell content) (ends : LineEnd cell ending)
      (later : Records false rest records) :
      Records continued (cell ++ ending ++ rest) ([content] :: records)

def WellFormed (text : Text) (records : List (List Text)) : Prop :=
  Records false text records

end Grammar

section Readings

-- The cells the loop finds: text behind a closing quote is appended to the quoted content.
inductive RawCell
  | plain (text : Plain)
  | quoted (content : Text) (tail : Plain)

def RawCell.spelled : RawCell -> Text
  | plain text => text.chars
  | quoted content tail => '"' :: doubled '"' content ++ '"' :: tail.chars

def RawCell.value : RawCell -> Text
  | plain text => text.chars
  | quoted content tail => content ++ tail.chars

def RawCell.content : RawCell -> Text
  | plain text => text.chars
  | quoted content _ => content

inductive Separator
  | comma
  | lineFeed

def Separator.char : Separator -> Char
  | comma => ','
  | lineFeed => '\n'

inductive Reading
  | last (cell : RawCell)
  | next (cell : RawCell) (separator : Separator) (rest : Reading)

namespace Reading

def text : Reading -> Text
  | last cell => cell.spelled
  | next cell separator rest => cell.spelled ++ separator.char :: rest.text

def cells : Reading -> List RawCell
  | last cell => [cell]
  | next cell _ rest => cell :: rest.cells

def lineFeeds : Reading -> Nat
  | last _ => 0
  | next _ .comma rest => rest.lineFeeds
  | next _ .lineFeed rest => rest.lineFeeds + 1

end Reading

-- The limits as the loop measures them: in a cell its carriage return still counts.
def WithinLimits (text : Text) : Prop :=
  forall reading : Reading, reading.text = text ->
    (forall cell, cell ∈ reading.cells -> unitLength cell.value <= maxCellLength) /\
      reading.lineFeeds <= catalogImportMaxRows + 1

theorem Plain.stops (rest : Text) : forall plain : Plain, (plain.chars ++ rest).head? = some '"' ->
    rest.head? = some '"' := by
  rintro ⟨chars, ordinary⟩ quote
  cases chars with
  | nil => exact quote
  | cons char chars =>
    simp only [List.cons_append, List.head?_cons, Option.some.injEq] at quote
    exact absurd quote (ordinary char (List.mem_cons_self ..)).1

theorem Plain.eq_of_chars {first second : Plain} (same : first.chars = second.chars) :
    first = second := by
  cases first
  cases second
  cases same
  rfl

theorem separator_stops (separator : Separator) (rest : Text) :
    Stops Ordinary (separator.char :: rest) := by
  refine stops_cons ?_ rest
  cases separator
  next => exact fun ordinary => ordinary.2.1 rfl
  next => exact fun ordinary => ordinary.2.2 rfl

-- What stands behind a cell: nothing, or a separator.
def Ends (rest : Text) : Prop :=
  rest = [] \/ exists (separator : Separator) (later : Text), rest = separator.char :: later

theorem Ends.stops {rest : Text} (ends : Ends rest) : Stops Ordinary rest := by
  rcases ends with rfl | ⟨separator, later, rfl⟩
  next => exact stops_nil _
  next => exact separator_stops separator later

theorem Ends.closes {rest : Text} (ends : Ends rest) : rest.head? ≠ some '"' := by
  rcases ends with rfl | ⟨separator, later, rfl⟩
  next => simp
  next => cases separator <;> simp [Separator.char]

theorem Ends.tail_closes {rest : Text} (ends : Ends rest) (tail : Plain) :
    (tail.chars ++ rest).head? ≠ some '"' :=
  fun quote => ends.closes (tail.stops rest quote)

theorem spelled_split {first second : RawCell} {rest other : Text} (ends : Ends rest)
    (ends' : Ends other) (same : first.spelled ++ rest = second.spelled ++ other) :
    first = second /\ rest = other := by
  cases first with
  | plain text =>
    cases second with
    | plain text' =>
      obtain ⟨chars, later⟩ := run_split text.ordinary text'.ordinary ends.stops ends'.stops same
      exact ⟨congrArg RawCell.plain (Plain.eq_of_chars chars), later⟩
    | quoted content tail =>
      exact absurd (by rw [show text.chars ++ rest = _ from same]; rfl) (ends.tail_closes text)
  | quoted content tail =>
    cases second with
    | plain text =>
      exact absurd (by rw [show text.chars ++ other = _ from same.symm]; rfl)
        (ends'.tail_closes text)
    | quoted content' tail' =>
      simp only [RawCell.spelled, List.cons_append, List.append_assoc, List.cons.injEq,
        true_and] at same
      obtain ⟨rfl, tails⟩ := doubled_split '"' (ends.tail_closes tail) (ends'.tail_closes tail') same
      obtain ⟨chars, later⟩ := run_split tail.ordinary tail'.ordinary ends.stops ends'.stops tails
      exact ⟨congrArg (RawCell.quoted content) (Plain.eq_of_chars chars), later⟩

/-- No text has two readings. -/
theorem reading_unique {first second : Reading} (same : first.text = second.text) :
    first = second := by
  have atEnd : Ends [] := .inl rfl
  have atSeparator : forall (separator : Separator) (rest : Text), Ends (separator.char :: rest) :=
    fun separator rest => .inr ⟨separator, rest, rfl⟩
  induction first generalizing second with
  | last cell =>
    cases second with
    | last cell' =>
      obtain ⟨rfl, _⟩ := @spelled_split cell cell' [] [] atEnd atEnd
        (by simpa [Reading.text] using same)
      rfl
    | next cell' separator' rest' =>
      obtain ⟨_, none⟩ := @spelled_split cell cell' [] _ atEnd (atSeparator separator' rest'.text)
        (by simpa [Reading.text] using same)
      exact absurd none (by simp)
  | next cell separator rest ih =>
    cases second with
    | last cell' =>
      obtain ⟨_, none⟩ := @spelled_split cell cell' _ [] (atSeparator separator rest.text) atEnd
        (by simpa [Reading.text] using same)
      exact absurd none (by simp)
    | next cell' separator' rest' =>
      obtain ⟨rfl, later⟩ := spelled_split (atSeparator separator rest.text)
        (atSeparator separator' rest'.text) same
      obtain ⟨chars, texts⟩ := List.cons.inj later
      obtain rfl := ih texts
      cases separator <;> cases separator' <;> simp_all [Separator.char]

end Readings

section Scanning

theorem checked_ok {scan : Scan} (fits : unitLength scan.cell <= maxCellLength) :
    scan.checked = .ok scan := by
  simp [Scan.checked, throwIf_passes (Nat.not_lt.2 fits), bind, Except.bind, pure, Except.pure]

theorem append_ok {scan : Scan} {character : Char}
    (fits : unitLength (scan.cell ++ [character]) <= maxCellLength) :
    scan.append character = .ok { scan with cell := scan.cell ++ [character] } :=
  checked_ok fits

theorem append_inv {scan next : Scan} {character : Char}
    (appended : scan.append character = .ok next) :
    next = { scan with cell := scan.cell ++ [character] } := by
  simp only [Scan.append, Scan.checked, bind_ok, throwIf_ok, pure_ok] at appended
  obtain ⟨_, _, same⟩ := appended
  exact same.symm

theorem checked_inv {scan next : Scan} (checked : scan.checked = .ok next) : next = scan := by
  simp only [Scan.checked, bind_ok, throwIf_ok, pure_ok] at checked
  obtain ⟨_, _, same⟩ := checked
  exact same.symm

theorem scan_doubled {scan : Scan} (opened : scan.quoted = true) (rest : Text) :
    scanRecords scan ('"' :: '"' :: rest) =
      (scan.append '"' >>= fun next => scanRecords next rest) := by
  rw [scanRecords.eq_def]
  simp [opened]

theorem scan_close {scan : Scan} (opened : scan.quoted = true) {rest : Text}
    (closes : rest.head? ≠ some '"') :
    scanRecords scan ('"' :: rest) =
      ({ scan with quoted := false }.checked >>= fun next => scanRecords next rest) := by
  rw [scanRecords.eq_def]
  cases rest with
  | nil => simp [opened]
  | cons mark rest =>
    have other : mark ≠ '"' := by simpa using closes
    simp [opened, other]

theorem scan_inside {scan : Scan} (opened : scan.quoted = true) {character : Char}
    (other : character ≠ '"') (rest : Text) :
    scanRecords scan (character :: rest) =
      (scan.append character >>= fun next => scanRecords next rest) := by
  rw [scanRecords.eq_def]
  simp [opened, other]

theorem scan_open {scan : Scan} (outside : scan.quoted = false) (rest : Text) :
    scanRecords scan ('"' :: rest) =
      (throwIf (scan.cell.length > 0) csvInvalid >>= fun _ =>
        scanRecords { scan with quoted := true } rest) := by
  rw [scanRecords.eq_def]
  simp [outside]

theorem scan_comma {scan : Scan} (outside : scan.quoted = false) (rest : Text) :
    scanRecords scan (',' :: rest) =
      scanRecords { scan with record := scan.record ++ [scan.cell], cell := [] } rest := by
  rw [scanRecords.eq_def]
  simp [outside]

theorem scan_lineFeed {scan : Scan} (outside : scan.quoted = false) (rest : Text) :
    scanRecords scan ('\n' :: rest) =
      (throwIf ((scan.records ++ [scan.record ++ [stripReturn scan.cell]]).length >
          catalogImportMaxRows + 1) rowLimit >>= fun _ =>
        scanRecords { scan with
          records := scan.records ++ [scan.record ++ [stripReturn scan.cell]]
          record := []
          cell := [] } rest) := by
  rw [scanRecords.eq_def]
  simp [outside]

theorem scan_ordinary {scan : Scan} (outside : scan.quoted = false) {character : Char}
    (ordinary : Ordinary character) (rest : Text) :
    scanRecords scan (character :: rest) =
      (scan.append character >>= fun next => scanRecords next rest) := by
  rw [scanRecords.eq_def]
  simp [outside, ordinary.1, ordinary.2.1, ordinary.2.2]

theorem unitLength_append (first second : Text) :
    unitLength (first ++ second) = unitLength first + unitLength second := by
  simp [unitLength]

theorem scan_plain (chars : Text) {scan : Scan} (rest : Text) (outside : scan.quoted = false)
    (ordinary : forall char, char ∈ chars -> Ordinary char)
    (fits : unitLength (scan.cell ++ chars) <= maxCellLength) :
    scanRecords scan (chars ++ rest) = scanRecords { scan with cell := scan.cell ++ chars } rest := by
  induction chars generalizing scan with
  | nil => simp
  | cons char chars ih =>
    have whole : scan.cell ++ char :: chars = (scan.cell ++ [char]) ++ chars := by simp
    rw [whole] at fits
    have first : unitLength (scan.cell ++ [char]) <= maxCellLength := by
      rw [unitLength_append] at fits
      omega
    rw [List.cons_append, scan_ordinary outside (ordinary char (List.mem_cons_self ..)),
      ok_of_bind (append_ok first), whole]
    exact ih outside (fun each inside => ordinary each (List.mem_cons_of_mem _ inside)) fits

theorem scan_content (content : Text) {scan : Scan} {rest : Text} (opened : scan.quoted = true)
    (closes : rest.head? ≠ some '"') (fits : unitLength (scan.cell ++ content) <= maxCellLength) :
    scanRecords scan (doubled '"' content ++ '"' :: rest) =
      scanRecords { scan with cell := scan.cell ++ content, quoted := false } rest := by
  induction content generalizing scan with
  | nil =>
    simp only [List.append_nil] at fits
    rw [doubled_nil, List.nil_append, scan_close opened closes,
      ok_of_bind (@checked_ok { scan with quoted := false } fits), List.append_nil]
  | cons char content ih =>
    have whole : scan.cell ++ char :: content = (scan.cell ++ [char]) ++ content := by simp
    rw [whole] at fits
    have first : unitLength (scan.cell ++ [char]) <= maxCellLength := by
      rw [unitLength_append] at fits
      omega
    have later := @ih { scan with cell := scan.cell ++ [char] } opened fits
    by_cases quote : char = '"'
    next =>
      subst quote
      rw [doubled_quote, List.cons_append, List.cons_append, scan_doubled opened,
        ok_of_bind (append_ok first), whole]
      exact later
    next =>
      rw [doubled_other _ quote, List.cons_append, scan_inside opened quote,
        ok_of_bind (append_ok first), whole]
      exact later

-- The cells of an open record in front of what follows it.
def attach (record : List Text) : List (List Text) -> List (List Text)
  | [] => []
  | first :: records => (record ++ first) :: records

theorem attach_attach (first second : List Text) (records : List (List Text)) :
    attach first (attach second records) = attach (first ++ second) records := by
  cases records <;> simp [attach]

-- What the loop returns, `continued` behind the comma of a record.
def Reading.records : Bool -> Reading -> List (List Text)
  | continued, last cell =>
    if continued = true \/ cell.value ≠ [] then [[stripReturn cell.value]] else []
  | _, next cell .comma rest => attach [cell.value] (rest.records true)
  | _, next cell .lineFeed rest => [stripReturn cell.value] :: rest.records false

theorem scan_cell {records : List (List Text)} {record : List Text} (cell : RawCell) {rest : Text}
    (ends : Ends rest) (fits : unitLength cell.value <= maxCellLength) :
    scanRecords { records, record, cell := [], quoted := false } (cell.spelled ++ rest) =
      scanRecords { records, record, cell := cell.value, quoted := false } rest := by
  cases cell with
  | plain text =>
    have scanned := @scan_plain text.chars { records, record, cell := [], quoted := false } rest rfl
      text.ordinary fits
    exact scanned
  | quoted content tail =>
    have whole : unitLength (content ++ tail.chars) <= maxCellLength := fits
    have first : unitLength content <= maxCellLength := by
      rw [unitLength_append] at whole
      omega
    have opening := @scan_open { records, record, cell := [], quoted := false } rfl
      (doubled '"' content ++ '"' :: (tail.chars ++ rest))
    have inside := @scan_content content { records, record, cell := [], quoted := true }
      (tail.chars ++ rest) rfl (ends.tail_closes tail) first
    have behind := @scan_plain tail.chars { records, record, cell := content, quoted := false } rest
      rfl tail.ordinary whole
    simp only [RawCell.spelled, RawCell.value, List.cons_append, List.append_assoc]
    rw [opening, ok_of_bind (throwIf_passes (by simp) csvInvalid), inside]
    exact behind

theorem scan_reading (reading : Reading) (continued : Bool) {records : List (List Text)}
    {record : List Text} (open' : continued = true <-> record ≠ [])
    (fits : forall cell, cell ∈ reading.cells -> unitLength cell.value <= maxCellLength)
    (few : records.length + reading.lineFeeds <= catalogImportMaxRows + 1) :
    scanRecords { records, record, cell := [], quoted := false } reading.text =
      .ok (records ++ attach record (reading.records continued)) := by
  induction reading generalizing continued records record with
  | last cell =>
    have scanned := @scan_cell records record cell [] (.inl rfl)
      (fits cell (by simp [Reading.cells]))
    rw [List.append_nil] at scanned
    rw [Reading.text, scanned, scanRecords.eq_def]
    simp only [throwIf, Bool.false_eq_true, if_false]
    by_cases some : continued = true \/ cell.value ≠ []
    next =>
      have kept : (decide (cell.value.length > 0) || decide (record.length > 0)) = true := by
        rcases some with continues | value
        next => simp [List.length_pos_iff.2 (open'.1 continues)]
        next => simp [List.length_pos_iff.2 value]
      simp [Reading.records, some, kept, attach, bind, Except.bind, pure, Except.pure]
    next =>
      obtain ⟨fresh, empty⟩ := not_or.1 some
      have none : record = [] := not_not.1 fun nonempty => fresh (open'.2 nonempty)
      simp [Reading.records, fresh, not_not.1 empty, none, attach, bind, Except.bind, pure,
        Except.pure]
  | next cell separator rest ih =>
    have scanned := @scan_cell records record cell (separator.char :: rest.text)
      (.inr ⟨separator, rest.text, rfl⟩) (fits cell (by simp [Reading.cells]))
    have later : forall each, each ∈ rest.cells -> unitLength each.value <= maxCellLength :=
      fun each inside => fits each (by simp [Reading.cells, inside])
    rw [Reading.text, scanned]
    cases separator with
    | comma =>
      have run := @ih true records (record ++ [cell.value]) (by simp) later few
      rw [Separator.char, scan_comma rfl, run, Reading.records, attach_attach]
    | lineFeed =>
      simp only [Reading.lineFeeds] at few
      have run := @ih false (records ++ [record ++ [stripReturn cell.value]]) [] (by simp) later
        (by simp only [List.length_append, List.length_cons, List.length_nil]; omega)
      have within : Not ((records ++ [record ++ [stripReturn cell.value]]).length >
          catalogImportMaxRows + 1) := by
        simp only [List.length_append, List.length_cons, List.length_nil]
        omega
      rw [Separator.char, scan_lineFeed rfl, ok_of_bind (throwIf_passes within rowLimit), run,
        Reading.records]
      cases rest.records false <;> simp [attach]

end Scanning

section Accepted

def Continues (text : Text) : Prop :=
  exists (tail : Plain) (rest : Text), text = tail.chars ++ rest /\
    (rest = [] \/ exists (separator : Separator) (reading : Reading),
      rest = separator.char :: reading.text)

def Closes (text : Text) : Prop :=
  exists (content rest : Text), text = doubled '"' content ++ '"' :: rest /\ Continues rest

def Plain.empty : Plain where
  chars := []
  ordinary := by simp

theorem continues_separator (separator : Separator) (reading : Reading) :
    Continues (separator.char :: reading.text) :=
  ⟨.empty, _, rfl, .inr ⟨separator, reading, rfl⟩⟩

theorem continues_nil : Continues [] :=
  ⟨.empty, [], rfl, .inl rfl⟩

theorem Continues.cons {character : Char} {rest : Text} (ordinary : Ordinary character)
    (continues : Continues rest) : Continues (character :: rest) := by
  obtain ⟨tail, later, rfl, behind⟩ := continues
  refine ⟨⟨character :: tail.chars, ?_⟩, later, rfl, behind⟩
  intro char inside
  rcases List.mem_cons.1 inside with rfl | inside
  next => exact ordinary
  next => exact tail.ordinary char inside

theorem reading_of_behind {cell : RawCell} {rest : Text}
    (behind : rest = [] \/ exists (separator : Separator) (reading : Reading),
      rest = separator.char :: reading.text) :
    exists reading : Reading, reading.text = cell.spelled ++ rest := by
  rcases behind with rfl | ⟨separator, reading, rfl⟩
  next => exact ⟨.last cell, by simp [Reading.text]⟩
  next => exact ⟨.next cell separator reading, rfl⟩

theorem Continues.reading {text : Text} (continues : Continues text) :
    exists reading : Reading, reading.text = text := by
  obtain ⟨tail, rest, rfl, behind⟩ := continues
  exact @reading_of_behind (.plain tail) rest behind

theorem Closes.reading {text : Text} (closes : Closes text) :
    exists reading : Reading, reading.text = '"' :: text := by
  obtain ⟨content, rest, rfl, tail, later, rfl, behind⟩ := closes
  obtain ⟨reading, same⟩ := @reading_of_behind (.quoted content tail) later behind
  exact ⟨reading, by simp [same, RawCell.spelled]⟩

theorem Closes.nil {rest : Text} (continues : Continues rest) : Closes ('"' :: rest) :=
  ⟨[], rest, rfl, continues⟩

theorem Closes.quote {rest : Text} (closes : Closes rest) : Closes ('"' :: '"' :: rest) := by
  obtain ⟨content, later, rfl, continues⟩ := closes
  exact ⟨'"' :: content, later, by simp, continues⟩

theorem Closes.other {character : Char} {rest : Text} (other : character ≠ '"')
    (closes : Closes rest) : Closes (character :: rest) := by
  obtain ⟨content, later, rfl, continues⟩ := closes
  exact ⟨character :: content, later, by simp [other], continues⟩

-- What is left of an accepted text, outside of quotes and inside of them.
def Readable (scan : Scan) (text : Text) : Prop :=
  if scan.quoted then Closes text
  else Continues text \/ scan.cell = [] /\ exists later, text = '"' :: later /\ Closes later

theorem Readable.closes {scan : Scan} {text : Text} (readable : Readable scan text)
    (opened : scan.quoted = true) : Closes text := by
  simpa [Readable, opened] using readable

theorem Readable.reading {scan : Scan} {text : Text} (readable : Readable scan text)
    (outside : scan.quoted = false) : exists reading : Reading, reading.text = text := by
  simp only [Readable, outside, Bool.false_eq_true, if_false] at readable
  rcases readable with continues | ⟨_, later, rfl, closes⟩
  next => exact continues.reading
  next => exact closes.reading

theorem Readable.continues {scan : Scan} {text : Text} (readable : Readable scan text)
    (outside : scan.quoted = false) (unquoted : text.head? ≠ some '"') : Continues text := by
  simp only [Readable, outside, Bool.false_eq_true, if_false] at readable
  rcases readable with continues | ⟨_, later, rfl, closes⟩
  next => exact continues
  next => exact absurd rfl unquoted

theorem Readable.inside {scan : Scan} {text : Text} (readable : Readable scan text)
    (outside : scan.quoted = false) (begun : scan.cell ≠ []) : Continues text := by
  simp only [Readable, outside, Bool.false_eq_true, if_false] at readable
  rcases readable with continues | ⟨fresh, _⟩
  next => exact continues
  next => exact absurd fresh begun

theorem ordinary_of_other {character : Char} (quote : character ≠ '"') (comma : character ≠ ',')
    (line : character ≠ '\n') : Ordinary character :=
  ⟨quote, comma, line⟩

theorem scan_readable (size : Nat) : forall (scan : Scan) (text : Text)
    (records : List (List Text)), text.length <= size ->
    scanRecords scan text = .ok records -> Readable scan text := by
  induction size with
  | zero =>
    intro scan text records short ran
    obtain rfl := List.length_eq_zero_iff.1 (Nat.le_zero.1 short)
    rw [scanRecords.eq_def] at ran
    simp only [bind_ok, throwIf_ok] at ran
    obtain ⟨_, outside, _⟩ := ran
    simp only [Readable, outside, Bool.false_eq_true, if_false]
    exact .inl continues_nil
  | succ size ih =>
    intro scan text records short ran
    cases text with
    | nil => exact ih scan [] records (Nat.zero_le _) ran
    | cons character rest =>
      have shorter : rest.length <= size := Nat.le_of_succ_le_succ short
      cases opened : scan.quoted with
      | true =>
        simp only [Readable, opened, if_true]
        by_cases quote : character = '"'
        next =>
          subst quote
          by_cases closes : rest.head? = some '"'
          next =>
            obtain ⟨later, rfl⟩ : exists later, rest = '"' :: later :=
              List.head?_eq_some_iff.1 closes
            rw [scan_doubled opened] at ran
            obtain ⟨next, appended, ran⟩ := (bind_ok ..).1 ran
            have readable := ih next later records (by simp at shorter; omega) ran
            exact (readable.closes (by rw [append_inv appended]; exact opened)).quote
          next =>
            rw [scan_close opened closes] at ran
            obtain ⟨next, checked, ran⟩ := (bind_ok ..).1 ran
            have readable := ih next rest records shorter ran
            exact .nil (readable.continues (by rw [checked_inv checked]) closes)
        next =>
          rw [scan_inside opened quote] at ran
          obtain ⟨next, appended, ran⟩ := (bind_ok ..).1 ran
          have readable := ih next rest records shorter ran
          exact (readable.closes (by rw [append_inv appended]; exact opened)).other quote
      | false =>
        simp only [Readable, opened, Bool.false_eq_true, if_false]
        by_cases quote : character = '"'
        next =>
          subst quote
          rw [scan_open opened] at ran
          simp only [bind_ok, throwIf_ok, Nat.not_lt, Nat.le_zero_eq, List.length_eq_zero_iff] at ran
          obtain ⟨_, fresh, ran⟩ := ran
          exact .inr ⟨fresh, rest, rfl, (ih _ rest records shorter ran).closes rfl⟩
        next =>
          refine .inl ?_
          by_cases comma : character = ','
          next =>
            subst comma
            rw [scan_comma opened] at ran
            obtain ⟨reading, rfl⟩ := (ih _ rest records shorter ran).reading opened
            exact continues_separator .comma reading
          next =>
            by_cases line : character = '\n'
            next =>
              subst line
              rw [scan_lineFeed opened] at ran
              obtain ⟨_, _, ran⟩ := (bind_ok ..).1 ran
              obtain ⟨reading, rfl⟩ := (ih _ rest records shorter ran).reading opened
              exact continues_separator .lineFeed reading
            next =>
              have ordinary := ordinary_of_other quote comma line
              rw [scan_ordinary opened ordinary] at ran
              obtain ⟨next, appended, ran⟩ := (bind_ok ..).1 ran
              have same := append_inv appended
              have readable := ih next rest records shorter ran
              refine Continues.cons ordinary (readable.inside (by rw [same]; exact opened) ?_)
              simp [same]

theorem reading_of_accepted {text : Text} {records : List (List Text)}
    (accepted : parseCsvRecords text = .ok records) :
    exists reading : Reading, reading.text = text :=
  (scan_readable text.length Scan.initial text records (Nat.le_refl _) accepted).reading rfl

theorem parse_reading (reading : Reading) (limits : WithinLimits reading.text) :
    parseCsvRecords reading.text = .ok (reading.records false) := by
  obtain ⟨fits, few⟩ := limits reading rfl
  have scanned := @scan_reading reading false [] [] (by simp) fits (by simpa using few)
  rw [parseCsvRecords, Scan.initial, scanned]
  cases reading.records false <;> simp [attach]

end Accepted

section Contents

-- Behind a closing quote stands nothing but a separator or the line end CRLF.
def RawCell.Strict : RawCell -> Separator -> Prop
  | plain _, _ => True
  | quoted _ tail, .comma => tail.chars = []
  | quoted _ tail, .lineFeed => tail.chars = [] \/ tail.chars = ['\r']

def RawCell.StrictLast : RawCell -> Prop
  | plain _ => True
  | quoted _ tail => tail.chars = []

def Reading.Strict : Reading -> Prop
  | last cell => cell.StrictLast
  | next cell separator rest => cell.Strict separator /\ rest.Strict

def RawCell.lineContent : RawCell -> Text
  | plain text => stripReturn text.chars
  | quoted content _ => content

def Reading.contents : Bool -> Reading -> List (List Text)
  | continued, last cell =>
    if continued = true \/ cell.spelled ≠ [] then [[cell.content]] else []
  | _, next cell .comma rest => attach [cell.content] (rest.contents true)
  | _, next cell .lineFeed rest => [cell.lineContent] :: rest.contents false

theorem contents_continued (reading : Reading) :
    exists record records, reading.contents true = record :: records := by
  induction reading with
  | last cell => exact ⟨[cell.content], [], by simp [Reading.contents]⟩
  | next cell separator rest ih =>
    cases separator with
    | comma =>
      obtain ⟨record, records, same⟩ := ih
      exact ⟨cell.content :: record, records, by simp [Reading.contents, same, attach]⟩
    | lineFeed => exact ⟨[cell.lineContent], rest.contents false, rfl⟩

theorem strip_return (cell : Text) : stripReturn (cell ++ ['\r']) = cell := by
  simp [stripReturn]

theorem strip_same {cell : Text} : stripReturn cell = cell <-> cell.getLast? ≠ some '\r' := by
  unfold stripReturn
  split
  next ends =>
    refine ⟨fun same => ?_, fun other => absurd ends other⟩
    have nonempty : cell ≠ [] := by
      rintro rfl
      simp at ends
    have shorter := congrArg List.length same
    have positive := List.length_pos_iff.2 nonempty
    simp only [List.length_dropLast] at shorter
    omega
  next other => simpa using other

theorem ordinary_return : Ordinary '\r' := by
  refine ⟨?_, ?_, ?_⟩ <;> decide

def Plain.withReturn (text : Plain) : Plain where
  chars := text.chars ++ ['\r']
  ordinary := by
    intro char inside
    rcases List.mem_append.1 inside with inside | inside
    next => exact text.ordinary char inside
    next =>
      obtain rfl := List.mem_singleton.1 inside
      exact ordinary_return

def Plain.dropLast (text : Plain) : Plain where
  chars := text.chars.dropLast
  ordinary := fun char inside => text.ordinary char (List.dropLast_subset _ inside)

-- The reading of a cell before a comma and at the end of the text.
theorem Cell.read {spelled content : Text} (cell : Cell spelled content) :
    exists raw : RawCell, raw.spelled = spelled /\ raw.content = content /\
      raw.Strict .comma /\ raw.StrictLast := by
  cases cell with
  | plain text => exact ⟨.plain text, rfl, rfl, trivial, trivial⟩
  | quoted content => exact ⟨.quoted content .empty, rfl, rfl, rfl, rfl⟩

theorem Cell.readLine {spelled content ending : Text} (cell : Cell spelled content)
    (ends : LineEnd spelled ending) :
    exists raw : RawCell, raw.spelled ++ ['\n'] = spelled ++ ending /\ raw.lineContent = content /\
      raw.Strict .lineFeed := by
  cases cell with
  | plain text =>
    rcases ends with rfl | ⟨rfl, other⟩
    next => exact ⟨.plain text.withReturn, by simp [RawCell.spelled, Plain.withReturn],
      strip_return text.chars, trivial⟩
    next => exact ⟨.plain text, rfl, strip_same.2 other, trivial⟩
  | quoted content =>
    rcases ends with rfl | ⟨rfl, _⟩
    next => exact ⟨.quoted content (Plain.withReturn .empty),
      by simp [RawCell.spelled, Plain.withReturn, Plain.empty], rfl, .inr rfl⟩
    next => exact ⟨.quoted content .empty, rfl, rfl, .inl rfl⟩

theorem reading_of_wellFormed {continued : Bool} {text : Text} {records : List (List Text)}
    (formed : Records continued text records) :
    exists reading : Reading, reading.text = text /\ reading.Strict /\
      reading.contents continued = records := by
  induction formed with
  | none => exact ⟨.last (.plain .empty), rfl, trivial, rfl⟩
  | last spelled some =>
    obtain ⟨raw, rfl, rfl, _, strict⟩ := spelled.read
    exact ⟨.last raw, rfl, strict, if_pos some⟩
  | comma spelled _ ih =>
    obtain ⟨raw, rfl, rfl, strict, _⟩ := spelled.read
    obtain ⟨reading, rfl, later, same⟩ := ih
    exact ⟨.next raw .comma reading, rfl, ⟨strict, later⟩, by simp [Reading.contents, same, attach]⟩
  | line spelled ends _ ih =>
    obtain ⟨raw, line, rfl, strict⟩ := spelled.readLine ends
    obtain ⟨reading, rfl, later, same⟩ := ih
    refine ⟨.next raw .lineFeed reading, ?_, ⟨strict, later⟩, by simp [Reading.contents, same]⟩
    rw [<- line]
    simp [Reading.text, Separator.char]

theorem RawCell.cell {raw : RawCell} (strict : raw.StrictLast) : Cell raw.spelled raw.content := by
  cases raw with
  | plain text => exact .plain text
  | quoted content tail =>
    rw [RawCell.spelled, show tail.chars = [] from strict]
    exact .quoted content

theorem RawCell.line {raw : RawCell} (strict : raw.Strict .lineFeed) :
    exists spelled ending, raw.spelled ++ ['\n'] = spelled ++ ending /\
      Cell spelled raw.lineContent /\ LineEnd spelled ending := by
  cases raw with
  | plain text =>
    by_cases ends : text.chars.getLast? = some '\r'
    next =>
      refine ⟨text.dropLast.chars, ['\r', '\n'], ?_, ?_, .inl rfl⟩
      next =>
        have whole := List.dropLast_append_getLast? _ ends
        rw [show [Char.ofNat 13, '\n'] = ['\r'] ++ ['\n'] from rfl, <- List.append_assoc]
        exact congrArg (fun chars => chars ++ ['\n']) whole.symm
      next =>
        have dropped : (RawCell.plain text).lineContent = text.dropLast.chars := if_pos ends
        rw [dropped]
        exact .plain text.dropLast
    next =>
      refine ⟨text.chars, ['\n'], rfl, ?_, .inr ⟨rfl, ends⟩⟩
      have same : (RawCell.plain text).lineContent = text.chars := if_neg ends
      rw [same]
      exact .plain text
  | quoted content tail =>
    rcases (strict : tail.chars = [] \/ tail.chars = ['\r']) with none | carriage
    next =>
      refine ⟨'"' :: doubled '"' content ++ ['"'], ['\n'], by rw [RawCell.spelled, none],
        .quoted content, .inr ⟨rfl, ?_⟩⟩
      rw [List.getLast?_append]
      simp
    next =>
      refine ⟨'"' :: doubled '"' content ++ ['"'], ['\r', '\n'], ?_, .quoted content, .inl rfl⟩
      rw [RawCell.spelled, carriage]
      simp

theorem wellFormed_of_reading (reading : Reading) (continued : Bool) (strict : reading.Strict) :
    Records continued reading.text (reading.contents continued) := by
  induction reading generalizing continued with
  | last cell =>
    rw [Reading.contents]
    split
    next some => exact .last (RawCell.cell strict) some
    next nothing =>
      obtain ⟨fresh, empty⟩ := not_or.1 nothing
      rw [Reading.text, not_not.1 empty, Bool.eq_false_iff.2 fresh]
      exact .none
  | next cell separator rest ih =>
    cases separator with
    | comma =>
      have later := ih true strict.2
      obtain ⟨record, records, same⟩ := contents_continued rest
      rw [same] at later
      rw [Reading.contents, same]
      refine .comma (RawCell.cell ?_) later
      cases cell with
      | plain text => trivial
      | quoted content tail => exact strict.1
    | lineFeed =>
      obtain ⟨spelled, ending, whole, formed, ends⟩ := RawCell.line strict.1
      have text : (Reading.next cell .lineFeed rest).text = spelled ++ ending ++ rest.text := by
        rw [<- whole]
        simp [Reading.text, Separator.char]
      rw [text]
      exact .line formed ends (ih false strict.2)

/-- Every text has at most one list of records by the grammar. -/
theorem wellFormed_unique {text : Text} {first second : List (List Text)}
    (formed : WellFormed text first) (formed' : WellFormed text second) : first = second := by
  obtain ⟨reading, rfl, _, rfl⟩ := reading_of_wellFormed formed
  obtain ⟨reading', same, _, rfl⟩ := reading_of_wellFormed formed'
  rw [reading_unique same]

end Contents

section Agreement

-- A quoted cell that the loop takes by the grammar and does not shorten.
def RawCell.Kept : RawCell -> Separator -> Prop
  | plain _, _ => True
  | quoted _ tail, .comma => tail.chars = []
  | quoted content tail, .lineFeed =>
    tail.chars = ['\r'] \/ tail.chars = [] /\ content.getLast? ≠ some '\r'

-- Without a line end behind it no cell may end with a carriage return, and the last record is
-- not a single pair of quotes.
def RawCell.KeptLast (continued : Bool) : RawCell -> Prop
  | plain text => text.chars.getLast? ≠ some '\r'
  | quoted content tail =>
    tail.chars = [] /\ content.getLast? ≠ some '\r' /\ (continued = true \/ content ≠ [])

def Reading.Kept : Bool -> Reading -> Prop
  | continued, last cell => cell.KeptLast continued
  | _, next cell .comma rest => cell.Kept .comma /\ rest.Kept true
  | _, next cell .lineFeed rest => cell.Kept .lineFeed /\ rest.Kept false

theorem attach_cancel {first second : Text} {records others : List (List Text)}
    (some : exists record later, records = record :: later)
    (some' : exists record later, others = record :: later) :
    attach [first] records = attach [second] others <-> first = second /\ records = others := by
  obtain ⟨record, later, rfl⟩ := some
  obtain ⟨record', later', rfl⟩ := some'
  simp [attach, and_assoc]

theorem records_continued (reading : Reading) :
    exists record records, reading.records true = record :: records := by
  induction reading with
  | last cell => exact ⟨[stripReturn cell.value], [], by simp [Reading.records]⟩
  | next cell separator rest ih =>
    cases separator with
    | comma =>
      obtain ⟨record, records, same⟩ := ih
      exact ⟨cell.value :: record, records, by simp [Reading.records, same, attach]⟩
    | lineFeed => exact ⟨[stripReturn cell.value], rest.records false, rfl⟩

theorem keptLast_iff (cell : RawCell) (continued : Bool) :
    cell.KeptLast continued <-> cell.StrictLast /\
      (Reading.last cell).contents continued = (Reading.last cell).records continued := by
  cases cell with
  | plain text =>
    simp only [RawCell.KeptLast, RawCell.StrictLast, Reading.contents, Reading.records,
      RawCell.spelled, RawCell.value, RawCell.content, true_and]
    rw [<- strip_same]
    by_cases some : continued = true \/ text.chars ≠ []
    next => simp [some, eq_comm]
    next =>
      have empty := not_not.1 (not_or.1 some).2
      simp [empty, stripReturn]
  | quoted content tail =>
    have whole : (Reading.last (.quoted content tail)).contents continued = [[content]] :=
      if_pos (.inr (List.cons_ne_nil _ _))
    rw [whole]
    refine and_congr_right fun none => ?_
    obtain rfl : tail = .empty := Plain.eq_of_chars none
    have value : (RawCell.quoted content .empty).value = content := List.append_nil content
    rw [Reading.records, value, <- strip_same]
    by_cases some : continued = true \/ content ≠ []
    next => simp only [some, and_true, if_true, List.cons.injEq, eq_comm]
    next => simp [some]

theorem kept_comma (cell : RawCell) :
    cell.Kept .comma <-> cell.Strict .comma /\ cell.content = cell.value := by
  cases cell with
  | plain text => simp [RawCell.Kept, RawCell.Strict, RawCell.content, RawCell.value]
  | quoted content tail => simp [RawCell.Kept, RawCell.Strict, RawCell.content, RawCell.value]

theorem kept_lineFeed (cell : RawCell) :
    cell.Kept .lineFeed <-> cell.Strict .lineFeed /\ cell.lineContent = stripReturn cell.value := by
  cases cell with
  | plain text => simp [RawCell.Kept, RawCell.Strict, RawCell.lineContent, RawCell.value]
  | quoted content tail =>
    simp only [RawCell.Kept, RawCell.Strict, RawCell.lineContent, RawCell.value]
    constructor
    next =>
      rintro (carriage | ⟨none, other⟩)
      next => exact ⟨.inr carriage, by rw [carriage, strip_return]⟩
      next => exact ⟨.inl none, by rw [none, List.append_nil, strip_same.2 other]⟩
    next =>
      rintro ⟨none | carriage, same⟩
      next =>
        rw [none, List.append_nil] at same
        exact .inr ⟨none, strip_same.1 same.symm⟩
      next => exact .inl carriage

-- The readings that keep to the grammar and to its contents.
theorem kept_iff (reading : Reading) (continued : Bool) :
    reading.Kept continued <->
      reading.Strict /\ reading.contents continued = reading.records continued := by
  induction reading generalizing continued with
  | last cell => exact keptLast_iff cell continued
  | next cell separator rest ih =>
    cases separator with
    | comma =>
      rw [Reading.Kept, Reading.Strict, Reading.contents, Reading.records, kept_comma, ih,
        attach_cancel (contents_continued rest) (records_continued rest)]
      tauto
    | lineFeed =>
      rw [Reading.Kept, Reading.Strict, Reading.contents, Reading.records, kept_lineFeed, ih,
        List.cons.injEq, List.cons.injEq]
      tauto

/-- The text is accepted exactly when the grammar has it, with exactly its contents. -/
def ReadsExactly (text : Text) : Prop :=
  ((exists records, parseCsvRecords text = .ok records) <-> exists records, WellFormed text records) /\
    forall records, parseCsvRecords text = .ok records -> WellFormed text records

theorem kept_of_exactly (reading : Reading) (limits : WithinLimits reading.text)
    (exactly : ReadsExactly reading.text) : reading.Kept false := by
  have formed := exactly.2 _ (parse_reading reading limits)
  obtain ⟨strictly, same, strict, contents⟩ := reading_of_wellFormed formed
  obtain rfl := reading_unique same
  exact (kept_iff strictly false).2 ⟨strict, contents⟩

-- A text whose reading fits is within the limits.
theorem withinLimits_of_reading (reading : Reading)
    (fits : forall cell, cell ∈ reading.cells -> unitLength cell.value <= maxCellLength)
    (few : reading.lineFeeds <= catalogImportMaxRows + 1) : WithinLimits reading.text := by
  intro other same
  obtain rfl := reading_unique same
  exact ⟨fits, few⟩

/-- A text is read as it is written exactly when no cell of it loses a character. -/
theorem parse_exactly_iff_kept (text : Text) (limits : WithinLimits text) :
    ReadsExactly text <->
      forall reading : Reading, reading.text = text -> reading.Kept false := by
  constructor
  next =>
    rintro exactly reading rfl
    exact kept_of_exactly reading limits exactly
  next =>
    intro kept
    refine ⟨⟨?_, ?_⟩, ?_⟩
    next =>
      rintro ⟨records, accepted⟩
      obtain ⟨reading, rfl⟩ := reading_of_accepted accepted
      exact ⟨_, wellFormed_of_reading reading false ((kept_iff reading false).1 (kept reading rfl)).1⟩
    next =>
      rintro ⟨records, formed⟩
      obtain ⟨reading, rfl, _⟩ := reading_of_wellFormed formed
      exact ⟨_, parse_reading reading limits⟩
    next =>
      intro records accepted
      obtain ⟨reading, rfl⟩ := reading_of_accepted accepted
      obtain ⟨strict, same⟩ := (kept_iff reading false).1 (kept reading rfl)
      have formed := wellFormed_of_reading reading false strict
      rw [same] at formed
      rw [parse_reading reading limits] at accepted
      obtain rfl := Except.ok.inj accepted
      exact formed

theorem parse_exactly_of_quoted_line :
    ReadsExactly "\"a\"\"b\",\"c\"\r\n".toList := by
  let reading : Reading := .next (.quoted "a\"b".toList .empty) .comma
    (.next (.quoted "c".toList (Plain.withReturn .empty)) .lineFeed (.last (.plain .empty)))
  have text : "\"a\"\"b\",\"c\"\r\n".toList = reading.text := by decide
  rw [text]
  refine (parse_exactly_iff_kept reading.text (withinLimits_of_reading reading (by decide)
    (by decide))).2 ?_
  intro other same
  obtain rfl := reading_unique same
  exact ⟨rfl, .inl rfl, by simp [Reading.Kept, RawCell.KeptLast, Plain.empty]⟩

-- Text behind a closing quote is accepted, and a quoted carriage return before a line end is lost.
theorem parse_not_exactly :
    (WithinLimits "\"a\"b".toList /\ Not (ReadsExactly "\"a\"b".toList)) /\
      WithinLimits "\"a\r\"\n".toList /\ Not (ReadsExactly "\"a\r\"\n".toList) := by
  let behind : Reading := .last (.quoted ['a'] ⟨['b'], by simp [Ordinary]⟩)
  let carriage : Reading := .next (.quoted ['a', '\r'] .empty) .lineFeed (.last (.plain .empty))
  have limits := withinLimits_of_reading behind (by decide) (by decide)
  have limits' := withinLimits_of_reading carriage (by decide) (by decide)
  refine ⟨⟨limits, fun exactly => ?_⟩, limits', fun exactly => ?_⟩
  next =>
    have kept := kept_of_exactly behind limits exactly
    exact absurd kept.1 (by simp)
  next =>
    have kept := kept_of_exactly carriage limits' exactly
    rcases kept.1 with tail | ⟨_, other⟩
    next => exact absurd tail (by simp [Plain.empty])
    next => exact other rfl

end Agreement

end VapeCommerce.Catalog.ImportCsv
