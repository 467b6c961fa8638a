import JuliaNative.Proofs.Ini.Reference
import JuliaNative.Proofs.Text.Written

set_option autoImplicit false

/-! # Writing configuration files

Sections are written one after another, each option on one line, and dollar signs are doubled. Reading
the lines gives the sections back with their options in order (`ofLines_writtenLines`), and resolving a
value gives the text that was written (`expand_escape`): whatever stands in a value, it is not taken
for a comment, a header, a delimiter or a reference. -/

namespace JuliaNative.Ini

/-! ## Lines -/

/-- A character with its dollar sign doubled. -/
def escapeChar (c : Char) : List Char :=
  if c = '$' then ['$', '$'] else [c]

/-- A text with its dollar signs doubled. -/
def escape (text : String) : String :=
  String.ofList (text.toList.flatMap escapeChar)

/-- The line of a header. -/
def headerLine (name : String) : String :=
  "[" ++ name ++ "]"

/-- The line of an option with its value. -/
def optionLine (entry : String × String) : String :=
  entry.1 ++ " = " ++ escape entry.2

/-- The lines of a section. -/
def sectionLines (entry : String × Table String String) : List String :=
  headerLine entry.1 :: entry.2.map optionLine

/-- A name that can be written in a header: one line, and not the name of the default section. Brackets
    in it do no harm, since a header ends at the last one. -/
structure IsHeaderName (name : String) : Prop where
  ne_empty : name ≠ ""
  isLine : Text.IsLine name
  ne_default : name ≠ defaultSection

/-- A name that can be written for an option: small letters and underscores. -/
structure IsOptionName (name : String) : Prop where
  ne_empty : name ≠ ""
  isLetter : ∀ c ∈ name.toList, ('a' ≤ c ∧ c ≤ 'z') ∨ c = '_'

/-- A value that can be written: one line without blanks at its ends. -/
structure IsOptionValue (value : String) : Prop where
  isLine : Text.IsLine value
  unpadded : Text.Unpadded value.toList

/-- A section that can be written. -/
structure IsSection (entry : String × Table String String) : Prop where
  name : IsHeaderName entry.1
  distinct : entry.2.keys.Nodup
  options : ∀ option ∈ entry.2, IsOptionName option.1 ∧ IsOptionValue option.2

/-! ## Escaped texts -/

theorem toList_escape (text : String) : (escape text).toList = text.toList.flatMap escapeChar :=
  String.toList_ofList

theorem mem_escapeChar {c d : Char} (h : d ∈ escapeChar c) : d = c := by
  unfold escapeChar at h
  split at h
  · next hdollar => simpa [hdollar] using h
  · simpa using h

theorem head?_flatMap_escapeChar (cs : List Char) : (cs.flatMap escapeChar).head? = cs.head? := by
  cases cs with
  | nil => rfl
  | cons c rest =>
      unfold escapeChar
      by_cases h : c = '$' <;> simp [h]

theorem getLast?_flatMap_escapeChar (cs : List Char) :
    (cs.flatMap escapeChar).getLast? = cs.getLast? := by
  induction cs with
  | nil => rfl
  | cons c rest ih =>
      have hlast : (escapeChar c).getLast? = some c := by
        unfold escapeChar
        by_cases h : c = '$' <;> simp [h]
      rw [List.flatMap_cons, List.getLast?_append, ih, hlast, List.getLast?_cons]
      cases rest.getLast? <;> rfl

theorem IsOptionValue.escape {value : String} (h : IsOptionValue value) :
    IsOptionValue (escape value) where
  isLine := by
    have hmem : ∀ c, c ∈ (Ini.escape value).toList → c ∈ value.toList := fun c hc => by
      rw [toList_escape] at hc
      obtain ⟨d, hd, hcd⟩ := List.mem_flatMap.1 hc
      exact mem_escapeChar hcd ▸ hd
    exact ⟨fun hfeed => h.isLine.1 (hmem _ hfeed), fun hreturn => h.isLine.2 (hmem _ hreturn)⟩
  unpadded := by
    rw [toList_escape]
    exact ⟨by simpa only [head?_flatMap_escapeChar] using h.unpadded.head,
      by simpa only [getLast?_flatMap_escapeChar] using h.unpadded.last⟩

theorem piecesAfter_escape (cs : List Char) :
    piecesAfter none (cs.flatMap escapeChar) = cs.map .char := by
  induction cs with
  | nil => rfl
  | cons c rest ih =>
      by_cases h : c = '$'
      · simp [escapeChar, h, piecesAfter, ih]
      · simp [escapeChar, h, piecesAfter, ih]

theorem joinPieces_chars {document : Document}
    {expand : String → String → String → Except ReferenceFault (List Char)}
    {sectionName option value : String} (cs : List Char) :
    document.joinPieces expand sectionName option value (cs.map .char) = .ok cs := by
  induction cs with
  | nil => rfl
  | cons c rest ih =>
      rw [List.map_cons, Document.joinPieces, ih]
      rfl

/-- A text whose dollar signs are doubled is resolved to itself. -/
theorem expand_escape (document : Document) (depth : Nat) (sectionName option text : String) :
    document.expand (depth + 1) sectionName option (escape text) = .ok text.toList := by
  rw [Document.expand, pieces, toList_escape, piecesAfter_escape, joinPieces_chars]

/-! ## What the lines hold -/

theorem isBlank_lineFeed : ∀ c ∈ ['\n'], Text.isBlank c = true :=
  List.all_eq_true.1 rfl

section Headers

variable {name : String}

theorem toList_headerLine (name : String) :
    (headerLine name).toList = '[' :: (name.toList ++ [']']) := by
  simp [headerLine]

theorem IsHeaderName.isLine_headerLine (h : IsHeaderName name) : Text.IsLine (headerLine name) := by
  obtain ⟨hfeed, hreturn⟩ := h.isLine
  unfold Text.IsLine
  rw [toList_headerLine]
  simp [hfeed, hreturn]

theorem headerName?_brackets {cs : List Char} (hne : cs ≠ []) :
    headerName? ('[' :: (cs ++ [']'])) = some cs := by
  have hreversed : (cs ++ [']']).reverse.dropWhile (· ≠ ']') = ']' :: cs.reverse := by simp
  simp only [headerName?, hreversed, List.drop_one, List.tail_cons]
  cases hcs : cs.reverse with
  | nil => exact absurd (List.reverse_eq_nil_iff.1 hcs) hne
  | cons c rest => exact congrArg some (hcs ▸ List.reverse_reverse cs)

theorem classify_headerLine (h : IsHeaderName name) :
    classify ((headerLine name).toList ++ ['\n']) = .header name := by
  have hunpadded : Text.Unpadded ('[' :: (name.toList ++ [']'])) := by
    refine ⟨fun c hc => ?_, fun c hc => ?_⟩
    · cases hc
      rfl
    · rw [← List.cons_append, List.getLast?_concat] at hc
      cases hc
      rfl
  have htrim : Text.trim ((headerLine name).toList ++ ['\n']) = '[' :: (name.toList ++ [']']) := by
    rw [toList_headerLine]
    exact Text.trim_append (List.forall_mem_nil _) isBlank_lineFeed hunpadded
  have hname := headerName?_brackets (show name.toList ≠ [] by simpa using h.ne_empty)
  unfold classify
  rw [htrim]
  simp [hname]

end Headers

section Options

variable {name value : String}

theorem toList_optionLine (entry : String × String) :
    (optionLine entry).toList = entry.1.toList ++ (' ' :: '=' :: ' ' :: (escape entry.2).toList) := by
  simp [optionLine]

theorem IsOptionName.code (h : IsOptionName name) {c : Char} (hc : c ∈ name.toList) :
    (0x61 ≤ c.toNat ∧ c.toNat ≤ 0x7a) ∨ c.toNat = 0x5f := by
  rcases h.isLetter c hc with ⟨hlow, hhigh⟩ | rfl
  · exact .inl ⟨hlow, hhigh⟩
  · exact .inr rfl

theorem IsOptionName.isBlank (h : IsOptionName name) : ∀ c ∈ name.toList, Text.isBlank c = false := by
  intro c hc
  have hcode := h.code hc
  refine Bool.eq_false_iff.2 fun hblank => ?_
  simp only [Text.isBlank, Bool.or_eq_true, Bool.and_eq_true, decide_eq_true_eq, beq_iff_eq] at hblank
  omega

theorem IsOptionName.lower (h : IsOptionName name) : Text.lower name = name := by
  refine Text.lower_of_isLower fun c hc => ?_
  have hcode := h.code hc
  refine Text.isLower_of_ascii (by omega) ?_
  rintro ⟨hlow, hhigh⟩
  have hlow : 0x41 ≤ c.toNat := hlow
  have hhigh : c.toNat ≤ 0x5a := hhigh
  omega

/-- What is left of the line of an option when blanks are cut off. -/
theorem trim_optionLine (hname : IsOptionName name) (hvalue : IsOptionValue value) :
    ∃ rest, Text.trim ((optionLine (name, value)).toList ++ ['\n']) =
        name.toList ++ ' ' :: '=' :: rest ∧
      Text.trim rest = (escape value).toList := by
  have hunpadded := hvalue.escape.unpadded
  have hfilled : name.toList ≠ [] := by simpa using hname.ne_empty
  have hline : Text.Unpadded name.toList :=
    ⟨fun c hc => hname.isBlank c (List.mem_of_head? hc),
      fun c hc => hname.isBlank c (List.mem_of_getLast? hc)⟩
  have hmark : Text.Unpadded ['='] := .of_ends rfl
  rw [toList_optionLine]
  dsimp only
  -- without a value, the blank behind the delimiter is cut off as well
  cases hvalue' : (escape value).toList with
  | nil =>
      refine ⟨[], ?_, rfl⟩
      have hblanks : ∀ c ∈ [' ', '\n'], Text.isBlank c = true := List.all_eq_true.1 rfl
      have htrim := Text.trim_append (List.forall_mem_nil _) hblanks
        (hline.append hfilled hmark (by simp) [' '])
      simpa using htrim
  | cons c more =>
      rw [hvalue'] at hunpadded
      refine ⟨' ' :: c :: more, ?_, ?_⟩
      · have htrim := Text.trim_append (List.forall_mem_nil _) isBlank_lineFeed
          (hline.append hfilled hunpadded (by simp) [' ', '=', ' '])
        simpa using htrim
      · have hblank : ∀ c ∈ [' '], Text.isBlank c = true := List.all_eq_true.1 rfl
        have htrim := Text.trim_append hblank (List.forall_mem_nil _) hunpadded
        simpa using htrim

theorem isDelimiter_of_code {c : Char} (h : (0x61 ≤ c.toNat ∧ c.toNat ≤ 0x7a) ∨ c.toNat = 0x5f) :
    isDelimiter c = false := by
  refine Bool.eq_false_iff.2 fun hdelimiter => ?_
  simp only [isDelimiter, Bool.or_eq_true, decide_eq_true_eq] at hdelimiter
  rcases hdelimiter with rfl | rfl <;> simp at h

theorem splitOption_of_name (hname : IsOptionName name) (rest : List Char) :
    splitOption (name.toList ++ ' ' :: '=' :: rest) = (name, some (String.ofList (Text.trim rest))) := by
  have hplain : ∀ c ∈ name.toList, (!isDelimiter c) = true := fun c hc => by
    rw [isDelimiter_of_code (hname.code hc), Bool.not_false]
  have htake : (name.toList ++ ' ' :: '=' :: rest).takeWhile (!isDelimiter ·) =
      name.toList ++ [' '] := by
    rw [List.takeWhile_append_of_pos hplain]
    rfl
  have hdrop : (name.toList ++ ' ' :: '=' :: rest).dropWhile (!isDelimiter ·) = '=' :: rest := by
    rw [List.dropWhile_append_of_pos hplain]
    rfl
  have hend : Text.trimEnd (name.toList ++ [' ']) = name.toList :=
    Text.trimEnd_append (List.all_eq_true.1 rfl) fun c hc => hname.isBlank c (List.mem_of_getLast? hc)
  simp only [splitOption, htake, hdrop, hend, String.ofList_toList, hname.lower]

theorem classify_optionLine (hname : IsOptionName name) (hvalue : IsOptionValue value) :
    classify ((optionLine (name, value)).toList ++ ['\n']) = .option name (some (escape value)) := by
  obtain ⟨rest, htrim, hrest⟩ := trim_optionLine hname hvalue
  have hsplit := splitOption_of_name hname rest
  cases hcs : name.toList with
  | nil => exact absurd (by simpa using hcs) hname.ne_empty
  | cons c more =>
      have hfirst : c ∈ name.toList := by simp [hcs]
      have hcode := hname.code hfirst
      have hcomment : ¬ (c = '#' ∨ c = ';') := by
        rintro (rfl | rfl) <;> simp at hcode
      have hbracket : c ≠ '[' := by
        rintro rfl
        simp at hcode
      have hheader : headerName? (c :: (more ++ ' ' :: '=' :: rest)) = none := by
        unfold headerName?
        split
        · next heq => exact absurd (List.cons.inj heq).1 hbracket
        · rfl
      rw [hcs, List.cons_append] at htrim hsplit
      unfold classify
      rw [htrim]
      simp [hcomment, hheader, hsplit, hrest]

theorem IsOptionName.isLine (h : IsOptionName name) : Text.IsLine name := by
  constructor
  · intro hc
    simpa using h.code hc
  · intro hc
    simpa using h.code hc

theorem isLine_optionLine (hname : IsOptionName name) (hvalue : IsOptionValue value) :
    Text.IsLine (optionLine (name, value)) := by
  obtain ⟨hfeed, hreturn⟩ := hname.isLine
  obtain ⟨hfeed', hreturn'⟩ := hvalue.escape.isLine
  unfold Text.IsLine
  rw [toList_optionLine]
  simp [hfeed, hreturn, hfeed', hreturn']

end Options

/-! ## Reading the lines -/

/-- The options of a section as they are read, each from one line. -/
def readOptions (options : Table String String) : OpenOptions :=
  options.map fun entry => (entry.1, some [escape entry.2])

/-- Sections as they are read. -/
def readSections (sections : Table String (Table String String)) : Table String OpenOptions :=
  sections.map fun entry => (entry.1, readOptions entry.2)

/-- A line of a file, ended by a line feed. -/
def ended (line : String) : List Char :=
  line.toList ++ ['\n']

namespace Reading

variable {reading mid : Reading} {number : Nat} {line : List Char}

theorem readLines_append {first second : List (List Char)}
    (h : reading.readLines number first = .ok mid) :
    reading.readLines number (first ++ second) = mid.readLines (number + first.length) second := by
  induction first generalizing reading number with
  | nil =>
      cases h
      rfl
  | cons line rest ih =>
      unfold readLines at h
      split at h
      · next next hline =>
          simp only [List.cons_append, readLines, hline, ih h, List.length_cons]
          rw [Nat.add_assoc, Nat.add_comm 1]
      · cases h

/-- A line that is not indented starts something, and lines so far that were not indented do not
    matter. -/
theorem readLine_of_unindented (hblank : classify line ≠ .blank) (hcomment : classify line ≠ .comment)
    (hline : indentation line = 0) (hindent : reading.indent = 0) :
    reading.readLine number line =
      match classify line with
      | .header name => reading.readHeader number name
      | .option name value => reading.readOption number line name value
      | _ => .ok reading := by
  have hsame : { reading with indent := indentation line } = reading := by
    rw [hline, ← hindent]
  have hcontent : reading.readLine number line = reading.readContent number line := by
    rw [readLine_of_content hblank hcomment, hline]
    split
    · rw [if_neg (Nat.not_lt_zero _)]
    · rfl
  rw [hcontent, readContent]
  cases classify line <;> simp only [hsame]

/-- Reading a header opens its section. -/
theorem readLine_headerLine {name : String} (hname : IsHeaderName name)
    (hnew : name ∉ reading.sections.keys) (hindent : reading.indent = 0) (number : Nat) :
    reading.readLine number (ended (headerLine name)) =
      .ok { reading with
        current := some name, option := none, sections := reading.sections ++ [(name, [])] } := by
  have hclassify : classify (ended (headerLine name)) = .header name := classify_headerLine hname
  have hline : indentation (ended (headerLine name)) = 0 := by
    rw [ended, toList_headerLine]
    rfl
  rw [readLine_of_unindented (by simp [hclassify]) (by simp [hclassify]) hline hindent, hclassify]
  simp [readHeader, hname.ne_default, Table.has_eq_false_iff.2 hnew, Table.put_of_not_mem hnew]

/-- A reading in a section, of which some options have been read, with other sections before it. -/
def within (reading : Reading) (earlier : Table String OpenOptions) (sectionName : String)
    (last : Option String) (options : OpenOptions) : Reading :=
  { reading with
    current := some sectionName, option := last, sections := earlier ++ [(sectionName, options)] }

section Section

variable {earlier : Table String OpenOptions} {sectionName : String} {done : OpenOptions}

@[simp] theorem indent_within (last : Option String) :
    (reading.within earlier sectionName last done).indent = reading.indent := rfl

/-- Reading the line of an option adds it to the section that is open. -/
theorem readLine_optionLine {name value : String} (hname : IsOptionName name)
    (hvalue : IsOptionValue value) (hdefault : sectionName ≠ defaultSection)
    (hsection : sectionName ∉ earlier.keys) (hnew : name ∉ done.keys) (hindent : reading.indent = 0)
    (last : Option String) (number : Nat) :
    (reading.within earlier sectionName last done).readLine number (ended (optionLine (name, value))) =
      .ok (reading.within earlier sectionName (some name)
        (done ++ [(name, some [escape value])])) := by
  have hclassify : classify (ended (optionLine (name, value))) = .option name (some (escape value)) :=
    classify_optionLine hname hvalue
  have hline : indentation (ended (optionLine (name, value))) = 0 := by
    rw [ended, toList_optionLine]
    cases hcs : name.toList with
    | nil => exact absurd (by simpa using hcs) hname.ne_empty
    | cons c more => simp [indentation, hname.isBlank c (by simp [hcs])]
  have hoptions : ∀ last, (reading.within earlier sectionName last done).options sectionName = done :=
    fun last => by
      rw [Reading.options, if_neg hdefault, within, Table.get?_append_of_not_mem hsection,
        Option.getD_some]
  have hput : (reading.within earlier sectionName (some name) done).putOption sectionName name
      (some [escape value]) = reading.within earlier sectionName (some name)
        (done ++ [(name, some [escape value])]) := by
    rw [putOption, if_neg hdefault, hoptions, Table.put_of_not_mem hnew, within,
      Table.put_append_of_not_mem hsection]
    rfl
  rw [readLine_of_unindented (by simp [hclassify]) (by simp [hclassify]) hline
    (by rw [indent_within, hindent]), hclassify]
  simp only [readOption, show (reading.within earlier sectionName last done).current
    = some sectionName from rfl, hoptions, Table.has_eq_false_iff.2 hnew, hname.ne_empty, if_false,
    Bool.false_eq_true, Option.map_some]
  exact congrArg Except.ok hput

/-- Reading the lines of options adds them all to the section that is open. -/
theorem readLines_optionLines (hdefault : sectionName ≠ defaultSection)
    (hsection : sectionName ∉ earlier.keys) {options : Table String String}
    (hoptions : ∀ option ∈ options, IsOptionName option.1 ∧ IsOptionValue option.2)
    (done : OpenOptions) (hdistinct : (done.keys ++ options.keys).Nodup) (hindent : reading.indent = 0)
    (last : Option String) (number : Nat) :
    ∃ last', (reading.within earlier sectionName last done).readLines number
        ((options.map optionLine).map ended) =
      .ok (reading.within earlier sectionName last' (done ++ readOptions options)) := by
  induction options generalizing done last number with
  | nil =>
      refine ⟨last, congrArg Except.ok ?_⟩
      rw [readOptions, List.map_nil, List.append_nil]
  | cons option rest ih =>
      obtain ⟨name, value⟩ := option
      obtain ⟨⟨hname, hvalue⟩, hrest⟩ := List.forall_mem_cons.1 hoptions
      rw [Table.keys_cons] at hdistinct
      have hnew : name ∉ done.keys := fun hmem =>
        List.disjoint_of_nodup_append hdistinct hmem (List.mem_cons_self ..)
      have hread := readLine_optionLine hname hvalue hdefault hsection hnew hindent last number
      obtain ⟨last', hlast⟩ := ih hrest (done ++ [(name, some [escape value])])
        (by simpa [Table.keys_append] using hdistinct) (some name) (number + 1)
      refine ⟨last', ?_⟩
      rw [List.map_cons, List.map_cons, readLines, hread]
      dsimp only
      rw [hlast, readOptions, readOptions, List.map_cons, List.append_assoc, List.singleton_append]

end Section

/-- Reading the lines of sections adds them all. -/
theorem readLines_sectionLines {sections : Table String (Table String String)}
    (hsections : ∀ entry ∈ sections, IsSection entry) (reading : Reading)
    (hdistinct : (reading.sections.keys ++ sections.keys).Nodup) (hindent : reading.indent = 0)
    (number : Nat) :
    ∃ current last, reading.readLines number ((sections.flatMap sectionLines).map ended) =
      .ok { reading with
        current := current, option := last, sections := reading.sections ++ readSections sections } := by
  induction sections generalizing reading number with
  | nil =>
      refine ⟨reading.current, reading.option, congrArg Except.ok ?_⟩
      rw [readSections, List.map_nil, List.append_nil]
  | cons entry rest ih =>
      obtain ⟨name, options⟩ := entry
      obtain ⟨hentry, hrest⟩ := List.forall_mem_cons.1 hsections
      rw [Table.keys_cons] at hdistinct
      have hnew : name ∉ reading.sections.keys := fun hmem =>
        List.disjoint_of_nodup_append hdistinct hmem (List.mem_cons_self ..)
      have hheader := readLine_headerLine hentry.name hnew hindent
      obtain ⟨last, hoptions⟩ := readLines_optionLines hentry.name.ne_default hnew hentry.options []
        hentry.distinct hindent none (number + 1)
      have hsection : reading.readLines number ((sectionLines (name, options)).map ended) =
          .ok (reading.within reading.sections name last (readOptions options)) := by
        rw [sectionLines, List.map_cons, readLines, hheader]
        exact hoptions
      have hdistinct' : ((reading.within reading.sections name last
          (readOptions options)).sections.keys ++ Table.keys rest).Nodup := by
        simpa [within, Table.keys_append] using hdistinct
      obtain ⟨current, last', hlast⟩ := ih hrest _ hdistinct' hindent
        (number + ((sectionLines (name, options)).map ended).length)
      refine ⟨current, last', ?_⟩
      rw [List.flatMap_cons, List.map_append, readLines_append hsection, hlast]
      simp [within, readSections]

end Reading

/-! ## Documents -/

variable {sections : Table String (Table String String)}

/-- The text of a file with some sections. -/
def writtenText (sections : Table String (Table String String)) : String :=
  String.join ((sections.flatMap sectionLines).map (· ++ "\n"))

/-- The options of a section as a document holds them. -/
def writtenOptions (options : Table String String) : Options :=
  options.map fun entry => (entry.1, some (escape entry.2))

/-- The document that a file with some sections holds. -/
def writtenDocument (sections : Table String (Table String String)) : Document where
  defaults := []
  sections := sections.map fun entry => (entry.1, writtenOptions entry.2)

theorem isLine_of_mem_sectionLines {entry : String × Table String String} (h : IsSection entry) :
    ∀ line ∈ sectionLines entry, Text.IsLine line := by
  refine List.forall_mem_cons.2 ⟨h.name.isLine_headerLine, fun line hline => ?_⟩
  obtain ⟨option, hoption, rfl⟩ := List.mem_map.1 hline
  exact isLine_optionLine (h.options option hoption).1 (h.options option hoption).2

/-- The lines of a file with some sections. -/
theorem fileLines_writtenText (hsections : ∀ entry ∈ sections, IsSection entry) :
    Text.fileLines (writtenText sections).toUTF8 =
      ((sections.flatMap sectionLines).map ended, none) := by
  refine Text.fileLines_of_lines fun line hline => ?_
  obtain ⟨entry, hentry, hmem⟩ := List.mem_flatMap.1 hline
  exact isLine_of_mem_sectionLines (hsections entry hentry) line hmem

theorem close_readOptions {options : Table String String}
    (hoptions : ∀ option ∈ options, IsOptionName option.1 ∧ IsOptionValue option.2) :
    Reading.close (readOptions options) = writtenOptions options := by
  rw [Reading.close, readOptions, writtenOptions, List.map_map]
  refine List.map_congr_left fun option hoption => ?_
  have hvalue := (hoptions option hoption).2.escape
  simp [Text.stripEnd_of_unpadded hvalue.unpadded]

/-- Reading the lines of a file gives the document that was written. -/
theorem ofLines_writtenText (hsections : ∀ entry ∈ sections, IsSection entry)
    (hdistinct : sections.keys.Nodup) :
    Document.ofLines ((sections.flatMap sectionLines).map ended) = .ok (writtenDocument sections) := by
  obtain ⟨current, last, hread⟩ :=
    Reading.readLines_sectionLines hsections {} hdistinct rfl 1
  have hclosed : (readSections sections).map (fun entry => (entry.1, Reading.close entry.2)) =
      sections.map fun entry => (entry.1, writtenOptions entry.2) := by
    rw [readSections, List.map_map]
    refine List.map_congr_left fun entry hentry => ?_
    exact congrArg (entry.1, ·) (close_readOptions (hsections entry hentry).options)
  rw [Document.ofLines, hread]
  simp only [if_true, Reading.document, Reading.close, List.map_nil, List.nil_append]
  rw [writtenDocument, ← hclosed]
  rfl

namespace Document

variable {sectionName : String} {options : Table String String}

theorem hasSection_writtenDocument (hsection : sections.get? sectionName = some options) :
    (writtenDocument sections).hasSection sectionName = true := by
  rw [hasSection, Table.has, writtenDocument, Table.get?_mapValues, hsection]
  rfl

theorem written?_writtenDocument (hsection : sections.get? sectionName = some options) :
    (writtenDocument sections).written? sectionName = some (writtenOptions options) := by
  refine written?_of_get? ?_
  rw [writtenDocument, Table.get?_mapValues, hsection, Option.map_some]

theorem optionNames_writtenDocument (hsection : sections.get? sectionName = some options) :
    (writtenDocument sections).optionNames sectionName = options.keys := by
  rw [optionNames, written?_writtenDocument hsection, Option.getD_some, writtenOptions,
    Table.keys_mapValues fun value => some (escape value)]
  exact List.append_nil _

/-- A written option is resolved to its value. -/
theorem resolved_writtenDocument (hsection : sections.get? sectionName = some options)
    (hdistinct : options.keys.Nodup) {option value : String} (hname : IsOptionName option)
    (hoption : (option, value) ∈ options) :
    (writtenDocument sections).resolved sectionName option = .ok (some value) := by
  have hvalue : (writtenDocument sections).value? sectionName option = some (some (escape value)) := by
    simp only [value?, written?_writtenDocument hsection, writtenOptions,
      Table.get?_mapValues fun value => some (escape value),
      (Table.get?_eq_some_iff hdistinct).2 hoption, Option.map_some]
  rw [resolved_of_value hname.lower hvalue, maximalDepth, expand_escape]
  exact congrArg (fun text => Except.ok (some text)) String.ofList_toList

end Document
end JuliaNative.Ini
