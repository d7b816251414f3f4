import VapeCommerce.Delivery.Csv

set_option autoImplicit false

-- common/export/csv.ts, and what the import parser reads back from it
namespace VapeCommerce.Delivery.CsvExport

open VapeCommerce.Lib.Outcome VapeCommerce.Schema VapeCommerce.Delivery.Csv

inductive CsvCell where
  | string (value : Text)
  | number (value : Int)
  | boolean (value : Bool)
  | null
  | undefined
deriving DecidableEq, Repr

def CsvCell.text : CsvCell -> Text
  | .string value => value
  | .number value => (toString value).toList
  | .boolean value => (toString value).toList
  | .null => []
  | .undefined => []

def isPadding (char : Char) : Bool :=
  char == '\t' || char == '\r' || char == ' '

def isFormulaCharacter (char : Char) : Bool :=
  char == '=' || char == '+' || char == '-' || char == '@'

-- `/^[\t\r ]*[=+\-@]/`
def formulaPrefix : Text -> Bool
  | [] => false
  | first :: rest => isFormulaCharacter first || (isPadding first && formulaPrefix rest)

def apostrophe : Char := Char.ofNat 39

def neutralizeCsvFormula (value : Text) : Text :=
  if formulaPrefix value then apostrophe :: value else value

def needsQuotes (value : Text) : Bool :=
  value.any fun char => char == '"' || char == ',' || char == '\r' || char == '\n'

def doubleQuotes (value : Text) : Text :=
  value.flatMap fun char => if char = '"' then ['"', '"'] else [char]

def escapeCsvCell (value : Text) : Text :=
  let neutralized := neutralizeCsvFormula value
  if needsQuotes neutralized then '"' :: doubleQuotes neutralized ++ ['"'] else neutralized

def csvLine (values : List Text) : Text :=
  [','].intercalate (values.map escapeCsvCell)

def byteOrderMark : Char := Char.ofNat 65279

def lineEnd : Text := ['\r', '\n']

def serializeCsv (headers : List Text) (rows : List (List CsvCell)) : Text :=
  byteOrderMark :: (lineEnd.intercalate
    (csvLine headers :: rows.map fun row => csvLine (row.map CsvCell.text)) ++ lineEnd)

section Cells

-- The parser between two cells of a row.
def between (rows : List (List Text)) (row : List Text) : Scanner where
  rows := rows
  row := row
  cell := []
  quoted := false
  closedQuote := false

def special (char : Char) : Bool :=
  char == '"' || char == ',' || char == '\r' || char == '\n'

theorem scan_plain {scanner : Scanner} {char : Char} (rest : Text) (opened : scanner.quoted = false)
    (unclosed : scanner.closedQuote = false) (plain : special char = false) :
    scanRows scanner (char :: rest) =
      scanRows { scanner with cell := scanner.cell ++ [char] } rest := by
  simp only [special, Bool.or_eq_false_iff, beq_eq_false_iff_ne] at plain
  obtain ⟨⟨⟨quote, comma⟩, carriage⟩, line⟩ := plain
  rw [scanRows.eq_def]
  simp [opened, unclosed, quote, comma, carriage, line]

theorem scan_quoted {scanner : Scanner} {char : Char} (rest : Text) (opened : scanner.quoted = true)
    (plain : char ≠ '"') :
    scanRows scanner (char :: rest) =
      scanRows { scanner with cell := scanner.cell ++ [char] } rest := by
  rw [scanRows.eq_def]
  simp [opened, plain]

theorem scan_doubled {scanner : Scanner} (rest : Text) (opened : scanner.quoted = true) :
    scanRows scanner ('"' :: '"' :: rest) =
      scanRows { scanner with cell := scanner.cell ++ ['"'] } rest := by
  rw [scanRows.eq_def]
  simp [opened]

theorem scan_close {scanner : Scanner} {next : Char} (rest : Text) (opened : scanner.quoted = true)
    (other : next ≠ '"') :
    scanRows scanner ('"' :: next :: rest) =
      scanRows { scanner with quoted := false, closedQuote := true } (next :: rest) := by
  rw [scanRows.eq_def]
  simp [opened, other]

theorem scan_open {scanner : Scanner} (rest : Text) (opened : scanner.quoted = false)
    (unclosed : scanner.closedQuote = false) (fresh : scanner.cell = []) :
    scanRows scanner ('"' :: rest) = scanRows { scanner with quoted := true } rest := by
  rw [scanRows.eq_def]
  simp [opened, unclosed, fresh, throwIf, bind, Except.bind]

theorem scan_text {scanner : Scanner} (text rest : Text) (opened : scanner.quoted = false)
    (unclosed : scanner.closedQuote = false) (plain : needsQuotes text = false) :
    scanRows scanner (text ++ rest) = scanRows { scanner with cell := scanner.cell ++ text } rest := by
  induction text generalizing scanner with
  | nil => simp
  | cons char text ih =>
    simp only [needsQuotes, List.any_cons, Bool.or_eq_false_iff] at plain
    rw [List.cons_append, scan_plain _ opened unclosed (by simpa [special] using plain.1)]
    have later := @ih { scanner with cell := scanner.cell ++ [char] } opened unclosed
      (by simpa [needsQuotes] using plain.2)
    simpa using later

theorem scan_doubleQuotes {scanner : Scanner} (text rest : Text) (opened : scanner.quoted = true) :
    scanRows scanner (doubleQuotes text ++ rest) =
      scanRows { scanner with cell := scanner.cell ++ text } rest := by
  induction text generalizing scanner with
  | nil => simp [doubleQuotes]
  | cons char text ih =>
    by_cases quote : char = '"'
    next =>
      subst quote
      have split : doubleQuotes ('"' :: text) ++ rest = '"' :: '"' :: (doubleQuotes text ++ rest) := by
        simp [doubleQuotes]
      rw [split, scan_doubled _ opened]
      have later := @ih { scanner with cell := scanner.cell ++ ['"'] } opened
      simpa using later
    next =>
      have split : doubleQuotes (char :: text) ++ rest = char :: (doubleQuotes text ++ rest) := by
        simp [doubleQuotes, quote]
      rw [split, scan_quoted _ opened quote]
      have later := @ih { scanner with cell := scanner.cell ++ [char] } opened
      simpa using later

-- An escaped cell is read back up to the separator behind it.
theorem scan_escaped (rows : List (List Text)) (row : List Text) (value : Text) {next : Char}
    (rest : Text) (separator : next = ',' \/ next = '\r') :
    exists closed, scanRows (between rows row) (escapeCsvCell value ++ next :: rest) =
      scanRows { between rows row with cell := neutralizeCsvFormula value, closedQuote := closed }
        (next :: rest) := by
  unfold escapeCsvCell
  dsimp only
  split
  next =>
    have other : next ≠ '"' := by
      rcases separator with rfl | rfl <;> decide
    refine ⟨true, ?_⟩
    rw [List.append_assoc, List.cons_append, scan_open _ rfl rfl rfl, List.singleton_append,
      scan_doubleQuotes _ _ rfl, scan_close _ rfl other]
    rfl
  next plain =>
    refine ⟨false, ?_⟩
    rw [scan_text _ _ rfl rfl (by simpa using plain)]
    rfl

end Cells

section Lines

def oversized : DeliveryCsvError := fileError "DELIVERY_CSV_CELL_TOO_LARGE"

-- The parser's length limit, on the text it finds in a cell.
def fits (value : Text) : Prop :=
  unitLength (neutralizeCsvFormula value) <= 2000

instance (value : Text) : Decidable (fits value) :=
  inferInstanceAs (Decidable (_ <= _))

def neutralized (values : List Text) : List Text :=
  values.map neutralizeCsvFormula

theorem finishCell_value (rows : List (List Text)) (row : List Text) (value : Text) (closed : Bool) :
    finishCell { between rows row with cell := neutralizeCsvFormula value, closedQuote := closed } =
      if fits value then .ok (between rows (row ++ [neutralizeCsvFormula value]))
      else .error oversized := by
  by_cases fitting : fits value
  next =>
    have small : Not (unitLength (neutralizeCsvFormula value) > 2000) := Nat.not_lt.2 fitting
    rw [if_pos fitting]
    exact ok_of_bind (throwIf_passes small _) _
  next =>
    have large : unitLength (neutralizeCsvFormula value) > 2000 := Nat.not_le.1 fitting
    rw [if_neg fitting]
    simp [finishCell, throwIf, large, oversized, bind, Except.bind]

theorem scan_cell (rows : List (List Text)) (row : List Text) (value rest : Text) :
    scanRows (between rows row) (escapeCsvCell value ++ ',' :: rest) =
      if fits value then scanRows (between rows (row ++ [neutralizeCsvFormula value])) rest
      else .error oversized := by
  obtain ⟨closed, scanned⟩ := scan_escaped rows row value rest (.inl rfl)
  have finished := finishCell_value rows row value closed
  rw [scanned, scanRows.eq_def]
  by_cases fitting : fits value
  next =>
    rw [if_pos fitting] at finished ⊢
    dsimp only [between] at finished ⊢
    simp [finished, bind, Except.bind]
  next =>
    rw [if_neg fitting] at finished ⊢
    dsimp only [between] at finished ⊢
    simp [finished, bind, Except.bind]

def keepRow (rows : List (List Text)) (row : List Text) : List (List Text) :=
  if row.any fun value => value.length > 0 then rows ++ [row] else rows

theorem scan_last (rows : List (List Text)) (row : List Text) (value rest : Text) :
    scanRows (between rows row) (escapeCsvCell value ++ lineEnd ++ rest) =
      if fits value then
        scanRows (between (keepRow rows (row ++ [neutralizeCsvFormula value])) []) rest
      else .error oversized := by
  obtain ⟨closed, scanned⟩ := scan_escaped rows row value ('\n' :: rest) (.inr rfl)
  rw [List.append_assoc]
  refine scanned.trans ?_
  have finished := finishCell_value rows row value closed
  rw [scanRows.eq_def]
  by_cases fitting : fits value
  next =>
    rw [if_pos fitting] at finished ⊢
    dsimp only [between] at finished ⊢
    simp [finishRow, finished, keepRow, bind, Except.bind, pure, Except.pure]
  next =>
    rw [if_neg fitting] at finished ⊢
    dsimp only [between] at finished ⊢
    simp [finishRow, finished, bind, Except.bind]

theorem csvLine_cons (value next : Text) (values : List Text) :
    csvLine (value :: next :: values) = escapeCsvCell value ++ ',' :: csvLine (next :: values) := by
  simp [csvLine, List.intercalate]

def written (line : List Text) : Text :=
  csvLine line ++ lineEnd

theorem scan_line (rows : List (List Text)) (row values : List Text) (value rest : Text) :
    scanRows (between rows row) (written (value :: values) ++ rest) =
      if forall cell, cell ∈ value :: values -> fits cell then
        scanRows (between (keepRow rows (row ++ neutralized (value :: values))) []) rest
      else .error oversized := by
  induction values generalizing row value with
  | nil =>
    have single : written [value] ++ rest = escapeCsvCell value ++ lineEnd ++ rest := by
      simp [written, csvLine, List.intercalate]
    rw [single, scan_last]
    simp [neutralized]
  | cons next values ih =>
    have split : written (value :: next :: values) ++ rest =
        escapeCsvCell value ++ ',' :: (written (next :: values) ++ rest) := by
      simp [written, csvLine_cons]
    rw [split, scan_cell, ih]
    by_cases here : fits value
    next =>
      rw [if_pos here]
      by_cases later : forall cell, cell ∈ next :: values -> fits cell
      next =>
        rw [if_pos later, if_pos (List.forall_mem_cons.2 ⟨here, later⟩)]
        simp [neutralized]
      next => rw [if_neg later, if_neg fun all => later (List.forall_mem_cons.1 all).2]
    next => rw [if_neg here, if_neg fun all => here (List.forall_mem_cons.1 all).1]

-- A row that the parser does not take for a blank line.
def Filled (row : List Text) : Prop :=
  exists cell, cell ∈ row /\ cell ≠ []

theorem neutralize_nonempty {value : Text} (filled : value ≠ []) : neutralizeCsvFormula value ≠ [] := by
  unfold neutralizeCsvFormula
  split
  next => simp
  next => exact filled

theorem keepRow_filled (rows : List (List Text)) {row : List Text} (filled : Filled row) :
    keepRow rows (neutralized row) = rows ++ [neutralized row] := by
  obtain ⟨cell, member, nonempty⟩ := filled
  have there : (neutralized row).any fun value => value.length > 0 := by
    refine List.any_eq_true.2 ⟨neutralizeCsvFormula cell, List.mem_map_of_mem member, ?_⟩
    simpa using List.length_pos_iff.2 (neutralize_nonempty nonempty)
  rw [keepRow, if_pos there]

theorem scan_lines (rows table : List (List Text)) (filled : forall row, row ∈ table -> Filled row) :
    scanRows (between rows []) (table.flatMap written) =
      if forall row, row ∈ table -> forall cell, cell ∈ row -> fits cell then
        .ok (rows ++ table.map neutralized)
      else .error oversized := by
  induction table generalizing rows with
  | nil => simp [scanRows, between, throwIf, bind, Except.bind, pure, Except.pure]
  | cons line table ih =>
    cases line with
    | nil =>
      obtain ⟨cell, member, -⟩ := filled [] (by simp)
      simp at member
    | cons value values =>
      rw [List.flatMap_cons, scan_line, List.nil_append, keepRow_filled _ (filled _ (by simp)),
        ih _ fun row member => filled row (by simp [member])]
      by_cases here : forall cell, cell ∈ value :: values -> fits cell
      next =>
        rw [if_pos here]
        by_cases later : forall row, row ∈ table -> forall cell, cell ∈ row -> fits cell
        next =>
          rw [if_pos later, if_pos (List.forall_mem_cons.2 ⟨here, later⟩)]
          simp
        next => rw [if_neg later, if_neg fun all => later (List.forall_mem_cons.1 all).2]
      next => rw [if_neg here, if_neg fun all => here (List.forall_mem_cons.1 all).1]

end Lines

section Export

-- The rows of an export, with the texts of their cells.
def exported (headers : List Text) (rows : List (List CsvCell)) : List (List Text) :=
  headers :: rows.map fun row => row.map CsvCell.text

theorem intercalate_lines (first : Text) (rest : List Text) :
    lineEnd.intercalate (first :: rest) ++ lineEnd = (first :: rest).flatMap (· ++ lineEnd) := by
  induction rest generalizing first with
  | nil => simp [List.intercalate]
  | cons next rest ih =>
    rw [List.flatMap_cons, <- ih]
    simp [List.intercalate]

theorem serializeCsv_lines (headers : List Text) (rows : List (List CsvCell)) :
    withoutByteOrderMark (serializeCsv headers rows) = (exported headers rows).flatMap written := by
  have mark : byteOrderMark.toNat = 65279 := by decide
  unfold serializeCsv withoutByteOrderMark
  dsimp only
  rw [if_pos mark, intercalate_lines]
  simp [exported, written, List.flatMap_map]

theorem formulaPrefix_neutralized (value : Text) : formulaPrefix (neutralizeCsvFormula value) = false := by
  unfold neutralizeCsvFormula
  split
  next =>
    have plain : isFormulaCharacter apostrophe = false /\ isPadding apostrophe = false := by decide
    simp [formulaPrefix, plain.1, plain.2]
  next unprefixed => simpa using unprefixed

theorem parse_serialized (headers : List Text) (rows : List (List CsvCell))
    (filled : forall row, row ∈ exported headers rows -> Filled row) :
    parseCsvRows (withoutByteOrderMark (serializeCsv headers rows)) =
      if forall row, row ∈ exported headers rows -> forall cell, cell ∈ row -> fits cell then
        .ok ((exported headers rows).map neutralized)
      else .error oversized := by
  rw [serializeCsv_lines]
  exact scan_lines [] (exported headers rows) filled

/-- Parsing an export gives back its rows in formula-neutralised form, or refuses it exactly when a
    neutralised cell is over the parser's limit; and no cell of it starts as a formula does. -/
theorem export_round_trip (headers : List Text) (rows : List (List CsvCell))
    (filled : forall row, row ∈ exported headers rows -> Filled row) :
    (parseCsvRows (withoutByteOrderMark (serializeCsv headers rows)) =
        if forall row, row ∈ exported headers rows -> forall cell, cell ∈ row -> fits cell then
          .ok ((exported headers rows).map neutralized)
        else .error oversized) /\
      forall row, row ∈ (exported headers rows).map neutralized -> forall cell, cell ∈ row ->
        formulaPrefix cell = false /\ forall first, cell.head? = some first ->
          isFormulaCharacter first = false := by
  constructor
  next => exact parse_serialized headers rows filled
  next =>
    intro row member cell present
    obtain ⟨texts, -, rfl⟩ := List.mem_map.1 member
    obtain ⟨value, -, rfl⟩ := List.mem_map.1 present
    have plain := formulaPrefix_neutralized value
    refine ⟨plain, fun first head => ?_⟩
    cases shape : neutralizeCsvFormula value with
    | nil => simp [shape] at head
    | cons other rest =>
      rw [shape, List.head?_cons, Option.some.injEq] at head
      rw [shape, formulaPrefix, Bool.or_eq_false_iff] at plain
      exact head ▸ plain.1

theorem quoted_note_returns :
    parseCsvRows (withoutByteOrderMark (serializeCsv ["note".toList, "amount".toList]
        [[.string "=1+1".toList, .number (-5)], [.string "a,\"b\"\r\nc".toList, .null]])) =
      .ok [["note".toList, "amount".toList], [apostrophe :: "=1+1".toList, apostrophe :: "-5".toList],
        ["a,\"b\"\r\nc".toList, []]] := by
  refine (export_round_trip ["note".toList, "amount".toList]
    [[.string "=1+1".toList, .number (-5)], [.string "a,\"b\"\r\nc".toList, .null]] ?_).1.trans ?_
  next =>
    intro row member
    simp only [exported, List.map_cons, List.map_nil, List.mem_cons, List.not_mem_nil, or_false] at member
    obtain rfl | rfl | rfl := member
    next => exact ⟨"note".toList, by simp, by decide⟩
    next => exact ⟨"=1+1".toList, by simp [CsvCell.text], by decide⟩
    next => exact ⟨"a,\"b\"\r\nc".toList, by simp [CsvCell.text], by decide⟩
  next => decide +kernel

def formulaOf (letters : Nat) : Text := '=' :: List.replicate letters 'a'

theorem unitLength_cons {char : Char} (small : char.toNat < 65536) (rest : Text) :
    unitLength (char :: rest) = 1 + unitLength rest := by
  simp [unitLength, small]

theorem formulaOf_length (letters : Nat) : unitLength (formulaOf letters) = 1 + letters := by
  rw [formulaOf, unitLength_cons (by decide)]
  simp [unitLength]

theorem formulaOf_grown (letters : Nat) :
    unitLength (neutralizeCsvFormula (formulaOf letters)) = 2 + letters := by
  have formula : formulaPrefix (formulaOf letters) = true := rfl
  rw [neutralizeCsvFormula, if_pos formula, unitLength_cons (by decide), formulaOf_length]
  omega

def longFormula : Text := formulaOf 1999

-- A cell of exactly the parser's limit outgrows it when it is neutralised.
theorem longest_formula_refused :
    (forall row, row ∈ exported ["note".toList] [[.string longFormula]] ->
        Filled row /\ forall cell, cell ∈ row -> unitLength cell <= 2000) /\
      parseCsvRows (withoutByteOrderMark (serializeCsv ["note".toList] [[.string longFormula]])) ≠
        .ok ((exported ["note".toList] [[.string longFormula]]).map neutralized) := by
  have rows : forall row, row ∈ exported ["note".toList] [[.string longFormula]] ->
      row = ["note".toList] \/ row = [longFormula] := by
    intro row member
    simpa [exported, CsvCell.text] using member
  have each : forall row, row ∈ exported ["note".toList] [[.string longFormula]] ->
      Filled row /\ forall cell, cell ∈ row -> unitLength cell <= 2000 := by
    intro row member
    obtain rfl | rfl := rows row member
    next =>
      refine ⟨⟨"note".toList, by simp, by decide⟩, fun cell present => ?_⟩
      rw [List.mem_singleton] at present
      rw [present]
      decide
    next =>
      refine ⟨⟨longFormula, by simp, List.cons_ne_nil _ _⟩, fun cell present => ?_⟩
      rw [List.mem_singleton] at present
      rw [present, longFormula, formulaOf_length]
  refine ⟨each, ?_⟩
  rw [parse_serialized _ _ fun row member => (each row member).1, if_neg]
  next => simp
  next =>
    intro all
    have fitting := all [longFormula] (by simp [exported, CsvCell.text]) longFormula (by simp)
    rw [fits, longFormula, formulaOf_grown] at fitting
    omega

end Export

end VapeCommerce.Delivery.CsvExport
