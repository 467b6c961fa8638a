import JuliaNative.Proofs.Outputs
import JuliaNative.Proofs.Readable

set_option autoImplicit false

/-! # The name of the library in C sources

The C compiler is told the name of the shared library by a definition on its command line: the name as it
is, between double quotes. Sources use it as a string literal. It is one, with the name as its value,
exactly if no character of the name means something else in a literal: a double quote ends it, a backslash
starts an escape, and a line feed cannot stand in it (`libraryDefinition_isLiteral_iff`). An escape is
shorter in the value than in the source, so no escapes make up for it (`Body.plain_of_length`). -/

namespace JuliaNative

namespace CSource

variable {cs rest written : List Char} {bytes : List UInt8} {c : Char}

/-! ## String literals -/

/-- The bytes of characters. -/
def encode (cs : List Char) : List UInt8 :=
  cs.flatMap String.utf8EncodeChar

/-- The escapes of one character and the bytes that they denote. -/
def simpleEscapes : List (Char × UInt8) :=
  [ (Char.ofNat 0x27, 0x27), ('"', 0x22), ('?', 0x3f), ('\\', 0x5c), ('a', 0x07), ('b', 0x08),
    ('f', 0x0c), ('n', 0x0a), ('r', 0x0d), ('t', 0x09), ('v', 0x0b) ]

/-- The value of a digit in a base of at most sixteen. -/
def digit? (base : Nat) (c : Char) : Option Nat :=
  let n := c.toNat
  let value :=
    if 0x30 ≤ n ∧ n ≤ 0x39 then n - 0x30
    else if 0x41 ≤ n ∧ n ≤ 0x46 then n - 0x41 + 10
    else if 0x61 ≤ n ∧ n ≤ 0x66 then n - 0x61 + 10
    else base
  if value < base then some value else none

/-- The number that digits denote. -/
def numeral? (base : Nat) (digits : List Char) : Option Nat :=
  digits.foldlM (fun number c => (digit? base c).map (number * base + ·)) 0

/-- Whether a character can be named by its number: it is a letter or sign that is not written plainly
    everywhere. -/
def IsNameable (number : Nat) : Prop :=
  number.isValidChar ∧ (0xa0 ≤ number ∨ number ∈ [0x24, 0x40, 0x60])

/-- What stands behind a backslash, and the bytes that it denotes: one character, a byte in octal or
    hexadecimal digits, of which as many are taken as there are, or a character named by its number. -/
inductive Escape (rest : List Char) : List Char → List UInt8 → Prop
  | simple {c : Char} {byte : UInt8} (h : (c, byte) ∈ simpleEscapes) : Escape rest [c] [byte]
  | octal {digits : List Char} {byte : UInt8} (hfilled : digits ≠ []) (hthree : digits.length ≤ 3)
    (hlongest : digits.length = 3 ∨ ∀ c, rest.head? = some c → digit? 8 c = none)
    (h : numeral? 8 digits = some byte.toNat) : Escape rest digits [byte]
  | hexadecimal {digits : List Char} {byte : UInt8} (hfilled : digits ≠ [])
    (hlongest : ∀ c, rest.head? = some c → digit? 16 c = none)
    (h : numeral? 16 digits = some byte.toNat) : Escape rest ('x' :: digits) [byte]
  | named {digits : List Char} {number : Nat} (hfour : digits.length = 4)
    (h : numeral? 16 digits = some number) (hnameable : IsNameable number) :
    Escape rest ('u' :: digits) (String.utf8EncodeChar (Char.ofNat number))
  | namedLong {digits : List Char} {number : Nat} (height : digits.length = 8)
    (h : numeral? 16 digits = some number) (hnameable : IsNameable number) :
    Escape rest ('U' :: digits) (String.utf8EncodeChar (Char.ofNat number))

/-- A character that stands for itself in a literal. -/
def IsPlain (c : Char) : Prop :=
  c ≠ '"' ∧ c ≠ '\\' ∧ c ≠ '\n'

instance : DecidablePred IsPlain :=
  fun c => inferInstanceAs (Decidable (c ≠ '"' ∧ c ≠ '\\' ∧ c ≠ '\n'))

/-- What stands between the quotes of a literal, and its value. -/
inductive Body : List Char → List UInt8 → Prop
  | nil : Body [] []
  | plain {c : Char} {cs : List Char} {bytes : List UInt8} (h : IsPlain c) (hrest : Body cs bytes) :
    Body (c :: cs) (String.utf8EncodeChar c ++ bytes)
  | escape {written cs : List Char} {first bytes : List UInt8} (h : Escape cs written first)
    (hrest : Body cs bytes) : Body ('\\' :: (written ++ cs)) (first ++ bytes)

/-- A text is one string literal with a value. -/
def IsLiteral (text : List Char) (value : List UInt8) : Prop :=
  ∃ body, text = '"' :: (body ++ ['"']) ∧ Body body value

/-! ## Plain characters only -/

theorem length_le_encode (cs : List Char) : cs.length ≤ (encode cs).length := by
  induction cs with
  | nil => exact Nat.le_refl 0
  | cons c cs ih =>
      have hpos := c.utf8Size_pos
      have hcons : (encode (c :: cs)).length = c.utf8Size + (encode cs).length := by
        simp [encode]
      rw [hcons, List.length_cons]
      omega

theorem encode_append (first second : List Char) :
    encode (first ++ second) = encode first ++ encode second :=
  List.flatMap_append

/-- An escape denotes fewer bytes than it takes in the source. -/
theorem Escape.length_lt (h : Escape rest written bytes) :
    bytes.length < (encode ('\\' :: written)).length := by
  have hsource := length_le_encode ('\\' :: written)
  rw [List.length_cons] at hsource
  cases h with
  | simple =>
      rw [List.length_singleton] at hsource ⊢
      omega
  | octal hfilled =>
      have hpos := List.length_pos_iff.2 hfilled
      rw [List.length_singleton]
      omega
  | hexadecimal =>
      rw [List.length_cons] at hsource
      rw [List.length_singleton]
      omega
  | @named digits number hfour =>
      have hsize := (Char.ofNat number).utf8Size_le_four
      rw [List.length_cons, hfour] at hsource
      rw [String.length_utf8EncodeChar]
      omega
  | @namedLong digits number height =>
      have hsize := (Char.ofNat number).utf8Size_le_four
      rw [List.length_cons, height] at hsource
      rw [String.length_utf8EncodeChar]
      omega

/-- A literal's value is at most as long as its source, and as long only if there is no escape in it. -/
theorem Body.plain_of_length (h : Body cs bytes) :
    bytes.length ≤ (encode cs).length ∧
      (bytes.length = (encode cs).length → ∀ c ∈ cs, IsPlain c) := by
  induction h with
  | nil => exact ⟨Nat.le_refl 0, fun _ => List.forall_mem_nil _⟩
  | @plain c cs bytes hc hrest ih =>
      obtain ⟨hle, hplain⟩ := ih
      have hcons : (encode (c :: cs)).length =
          (String.utf8EncodeChar c).length + (encode cs).length := by
        simp [encode]
      rw [hcons, List.length_append]
      refine ⟨by omega, fun heq => ?_⟩
      exact List.forall_mem_cons.2 ⟨hc, hplain (by omega)⟩
  | @escape written cs first bytes hescape hrest ih =>
      have hlt := hescape.length_lt
      have hcons : (encode ('\\' :: (written ++ cs))).length =
          (encode ('\\' :: written)).length + (encode cs).length := by
        rw [← List.cons_append, encode_append, List.length_append]
      rw [hcons, List.length_append]
      exact ⟨by omega, fun heq => by omega⟩

theorem body_of_plain (h : ∀ c ∈ cs, IsPlain c) : Body cs (encode cs) := by
  induction cs with
  | nil => exact .nil
  | cons c cs ih =>
      obtain ⟨hc, hcs⟩ := List.forall_mem_cons.1 h
      exact .plain hc (ih hcs)

/-- Characters between double quotes are a literal with themselves as its value exactly if all of them are
    plain. -/
theorem isLiteral_quoted_iff :
    IsLiteral ('"' :: (cs ++ ['"'])) (encode cs) ↔ ∀ c ∈ cs, IsPlain c := by
  constructor
  · rintro ⟨body, heq, hbody⟩
    have hsame : cs = body := by simpa using heq
    subst hsame
    exact hbody.plain_of_length.2 rfl
  · intro h
    exact ⟨cs, rfl, body_of_plain h⟩

end CSource

/-! ## The definition on the command line -/

section Command

open CSource (IsLiteral encode isLiteral_quoted_iff)

variable {output : String} {runtime : Runtime} {rules : LinkRules} {artifacts : Artifacts}

/-- The name of the library is the output's, with the extension of libraries. -/
theorem Artifacts.sharedLibrary_of_named
    (hnamed : Artifacts.named output runtime rules = .ok artifacts) :
    artifacts.sharedLibrary = output ++ "." ++ runtime.dlext := by
  unfold Artifacts.named at hnamed
  cases hextension : runtime.objectExtension with
  | error fault =>
      rw [hextension] at hnamed
      cases hnamed
  | ok extension =>
      rw [hextension] at hnamed
      obtain rfl := Except.ok.inj hnamed
      rfl

theorem libraryDefinition_mem_sharedCommand (hreadable : runtime.Readable) (compiler : String)
    (flags : List String) (initSource : Option String) :
    ∃ command, sharedCommand compiler rules runtime artifacts flags initSource = .ok command ∧
      libraryDefinition artifacts.sharedLibrary ∈ command := by
  obtain ⟨archive, harchive⟩ := hreadable.usesArchive
  simp [sharedCommand, objectArguments, harchive, Except.map]

theorem libraryDefinition_mem_executableCommand (compiler driver : String) (flags : List String) :
    libraryDefinition artifacts.sharedLibrary ∈
      executableCommand compiler rules runtime artifacts driver flags := by
  simp [executableCommand]

/-- What C sources see instead of the name. -/
def nameReplacement (sharedLibrary : String) : String :=
  "\"" ++ sharedLibrary ++ "\""

theorem libraryDefinition_eq (sharedLibrary : String) :
    libraryDefinition sharedLibrary = "-DJULIAC_PROGRAM_LIBNAME=" ++ nameReplacement sharedLibrary := by
  have hstart : "-DJULIAC_PROGRAM_LIBNAME=\"" = "-DJULIAC_PROGRAM_LIBNAME=" ++ "\"" := by
    decide +kernel
  calc libraryDefinition sharedLibrary
      = "-DJULIAC_PROGRAM_LIBNAME=" ++ "\"" ++ sharedLibrary ++ "\"" :=
        congrArg (· ++ sharedLibrary ++ "\"") hstart
    _ = _ := by simp only [nameReplacement, String.append_assoc]

/-- The characters of a library's name are plain if those that it is made of are. -/
theorem forall_isPlain_sharedLibrary_iff
    (hname : artifacts.sharedLibrary = output ++ "." ++ runtime.dlext) :
    (∀ c ∈ artifacts.sharedLibrary.toList, CSource.IsPlain c) ↔
      (∀ c ∈ output.toList, CSource.IsPlain c) ∧ ∀ c ∈ runtime.dlext.toList, CSource.IsPlain c := by
  have hdot : ∀ c ∈ ".".toList, CSource.IsPlain c := by
    refine List.forall_mem_singleton.2 ?_
    decide
  rw [hname, String.toList_append, String.toList_append]
  simp only [List.forall_mem_append]
  exact ⟨fun ⟨⟨houtput, _⟩, hdlext⟩ => ⟨houtput, hdlext⟩,
    fun ⟨houtput, hdlext⟩ => ⟨⟨houtput, hdot⟩, hdlext⟩⟩

/-- Both link commands have one argument that defines the name of the shared library for C sources. What
    the name is replaced by there is one string literal whose value is the library's name exactly if the
    name of the output and the extension of libraries are plain characters. -/
theorem libraryDefinition_isLiteral_iff (hreadable : runtime.Readable) (output : String)
    (rules : LinkRules) :
    ∃ artifacts, Artifacts.named output runtime rules = .ok artifacts ∧
      artifacts.sharedLibrary = output ++ "." ++ runtime.dlext ∧
      ∃ replacement : String,
        libraryDefinition artifacts.sharedLibrary = "-DJULIAC_PROGRAM_LIBNAME=" ++ replacement ∧
        (∀ compiler flags initSource, ∃ command,
          sharedCommand compiler rules runtime artifacts flags initSource = .ok command ∧
            libraryDefinition artifacts.sharedLibrary ∈ command) ∧
        (∀ compiler driver flags, libraryDefinition artifacts.sharedLibrary ∈
          executableCommand compiler rules runtime artifacts driver flags) ∧
        (IsLiteral replacement.toList (encode artifacts.sharedLibrary.toList) ↔
          (∀ c ∈ output.toList, CSource.IsPlain c) ∧
            ∀ c ∈ runtime.dlext.toList, CSource.IsPlain c) := by
  obtain ⟨artifacts, hnamed⟩ := hreadable.artifacts output rules
  have hname := Artifacts.sharedLibrary_of_named hnamed
  refine ⟨artifacts, hnamed, hname, _, libraryDefinition_eq _,
    libraryDefinition_mem_sharedCommand hreadable, libraryDefinition_mem_executableCommand, ?_⟩
  have htext : (nameReplacement artifacts.sharedLibrary).toList =
      '"' :: (artifacts.sharedLibrary.toList ++ ['"']) := by
    simp [nameReplacement, String.toList_append]
  rw [htext, isLiteral_quoted_iff, forall_isPlain_sharedLibrary_iff hname]

/-- An output with a double quote in its name: the library cannot be named in C sources. -/
theorem libraryDefinition_isLiteral_iff_quoted :
    Host.plainRuntime.Readable ∧
      ∃ artifacts, Artifacts.named "a\"b" Host.plainRuntime ⟨.linux, none⟩ = .ok artifacts ∧
        ∃ replacement : String,
          libraryDefinition artifacts.sharedLibrary = "-DJULIAC_PROGRAM_LIBNAME=" ++ replacement ∧
            ¬ IsLiteral replacement.toList (encode artifacts.sharedLibrary.toList) := by
  have hreadable : Host.plainRuntime.Readable := ⟨⟨1, 0, 0⟩, by rfl⟩
  obtain ⟨artifacts, hnamed, -, replacement, hdefinition, -, -, hiff⟩ :=
    libraryDefinition_isLiteral_iff hreadable "a\"b" ⟨.linux, none⟩
  refine ⟨hreadable, artifacts, hnamed, replacement, hdefinition, fun hliteral => ?_⟩
  have hquote : '"' ∈ "a\"b".toList := by decide +kernel
  exact ((hiff.1 hliteral).1 _ hquote).1 rfl

end Command

end JuliaNative
