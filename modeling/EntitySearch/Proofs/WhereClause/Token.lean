import EntitySearch.Proofs.Assembly
import Mathlib.Data.List.SplitBy

/-!
# The tokens of a statement

The text of a statement is cut into words, signs, marks and quotations.  A question mark outside of
quotations takes the next one of the statement's values, so a text whose placeholders and values
do not match has no tokens, and neither has a text that ends within a quotation.
-/

namespace EntitySearch.WhereClause

/-- A word that has a meaning of its own in a where clause. -/
inductive Keyword where
  | restrict
  | and
  | or
  | between
  | like
  | is
  | not
  | null
  deriving DecidableEq, Repr

namespace Keyword

def all : List Keyword := [restrict, and, or, between, like, is, not, null]

def word : Keyword → String
  | restrict => "where"
  | and => "and"
  | or => "or"
  | between => "between"
  | like => "like"
  | is => "is"
  | not => "not"
  | null => "null"

/-- The keyword that a word is, in any case of its letters. -/
def ofWord? (word : String) : Option Keyword :=
  all.find? fun keyword => Text.equalsIgnoringCase keyword.word word

end Keyword

/-- How two values are compared. -/
inductive Comparison where
  | equal
  | notEqual
  | greater
  | atLeast
  | less
  | atMost
  deriving DecidableEq, Repr

namespace Comparison

def all : List Comparison := [equal, notEqual, greater, atLeast, less, atMost]

def sign : Comparison → String
  | equal => "="
  | notEqual => "!="
  | greater => ">"
  | atLeast => ">="
  | less => "<"
  | atMost => "<="

def ofSign? (sign : String) : Option Comparison :=
  all.find? fun comparison => comparison.sign == sign

end Comparison

/-- A smallest part of a statement that has a meaning. -/
inductive Token where
  | name (word : String)
  | keyword (keyword : Keyword)
  | comparison (comparison : Comparison)
  /-- A placeholder with the value that it binds. -/
  | value (value : Value)
  | opening
  | closing
  /-- Anything else: a quotation, a comma, a sign that compares nothing. -/
  | other (text : String)
  deriving DecidableEq, Repr

namespace Token

def ofWord (word : String) : Token :=
  match Keyword.ofWord? word with
  | some known => keyword known
  | none => name word

def ofSign (sign : String) : Token :=
  match Comparison.ofSign? sign with
  | some known => comparison known
  | none => other sign

/-- The parenthesis that a token is. -/
def parenthesis? : Token → Option Char
  | opening => some '('
  | closing => some ')'
  | _ => none

end Token

/-! ## Characters -/

/-- A character of a statement; the marks around a quotation belong to it. -/
structure Glyph where
  char : Char
  quoted : Bool
  deriving DecidableEq, Repr

/-- What a character belongs to.  A mark stands for itself. -/
inductive GlyphKind where
  | quotation
  | space
  | word
  | sign
  | mark
  deriving DecidableEq, Repr

/-- A single, double or backward quotation mark. -/
def isQuote (char : Char) : Bool := char == '\'' || char == '"' || char.toNat == 0x60

/-- A character of an identifier; a dot joins its parts. -/
def isWordChar (char : Char) : Bool :=
  if char.toNat < 0x80 then char.isAlphanum || ['_', '$', '#', '.'].contains char
  else !Text.isWhiteSpace char

def isSignChar (char : Char) : Bool := ['=', '!', '<', '>'].contains char

namespace Glyph

def kind (glyph : Glyph) : GlyphKind :=
  if glyph.quoted then .quotation
  else if Text.isWhiteSpace glyph.char then .space
  else if isWordChar glyph.char then .word
  else if isSignChar glyph.char then .sign
  else .mark

/-- Neighbours of one kind belong together, unless they are marks. -/
def glued (left right : Glyph) : Bool := left.kind == right.kind && left.kind != .mark

end Glyph

/-- The quotation mark that is open behind a character. -/
def quoteAfter : Option Char → Char → Option Char
  | none, char => if isQuote char then some char else none
  | some quote, char => if char = quote then none else some quote

def glyphs : Option Char → List Char → List Glyph
  | _, [] => []
  | quote?, char :: rest =>
      ⟨char, quote?.isSome || isQuote char⟩ :: glyphs (quoteAfter quote? char) rest

/-- Every quotation of the text ends within it. -/
def QuotationsEnd (text : List Char) : Prop := text.foldl quoteAfter none = none

instance (text : List Char) : Decidable (QuotationsEnd text) :=
  inferInstanceAs (Decidable (_ = _))

theorem glyphs_append (quote? : Option Char) (left right : List Char) :
    glyphs quote? (left ++ right) =
      glyphs quote? left ++ glyphs (left.foldl quoteAfter quote?) right := by
  induction left generalizing quote? with
  | nil => rfl
  | cons char left induction => simp [glyphs, induction]

@[simp]
theorem map_char_glyphs (quote? : Option Char) (text : List Char) :
    (glyphs quote? text).map (·.char) = text := by
  induction text generalizing quote? with
  | nil => rfl
  | cons char text induction => simp [glyphs, induction]

theorem QuotationsEnd.append {left right : List Char} (left_ends : QuotationsEnd left)
    (right_ends : QuotationsEnd right) : QuotationsEnd (left ++ right) := by
  rw [QuotationsEnd] at left_ends right_ends ⊢
  rw [List.foldl_append, left_ends, right_ends]

/-! ## Lexemes -/

/-- A token, or the place of one that a value fills. -/
inductive Lexeme where
  | token (token : Token)
  | placeholder
  deriving DecidableEq, Repr

def Lexeme.ofRun? : List Glyph → Option Lexeme
  | [] => none
  | first :: rest =>
      let text := String.ofList ((first :: rest).map (·.char))
      match first.kind with
      | .space => none
      | .word => some (.token (.ofWord text))
      | .sign => some (.token (.ofSign text))
      | .quotation => some (.token (.other text))
      | .mark =>
          if first.char = '?' then some .placeholder
          else if first.char = '(' then some (.token .opening)
          else if first.char = ')' then some (.token .closing)
          else some (.token (.other text))

def lexemes (text : List Char) : List Lexeme :=
  ((glyphs none text).splitBy Glyph.glued).filterMap Lexeme.ofRun?

/-- Two texts can be put together without joining a word, a sign, a space or a quotation. -/
def Apart (left right : List Char) : Prop :=
  ∀ last ∈ (glyphs none left).getLast?, ∀ first ∈ (glyphs none right).head?,
    last.glued first = false

theorem lexemes_append {left right : List Char} (left_ends : QuotationsEnd left)
    (apart : Apart left right) : lexemes (left ++ right) = lexemes left ++ lexemes right := by
  have glyphs_eq : glyphs none (left ++ right) = glyphs none left ++ glyphs none right := by
    rw [glyphs_append, show left.foldl quoteAfter none = none from left_ends]
  rw [lexemes, glyphs_eq, List.splitBy_append apart, List.filterMap_append]
  rfl

/-- The first and the last character are no white space. -/
structure Trimmed (text : List Char) : Prop where
  first : ∃ char ∈ text.head?, Text.isWhiteSpace char = false
  last : ∃ char ∈ text.getLast?, Text.isWhiteSpace char = false

theorem trimmed_iff {text : List Char} :
    Trimmed text ↔ text.head?.any (fun char => !Text.isWhiteSpace char) = true ∧
      text.getLast?.any (fun char => !Text.isWhiteSpace char) = true := by
  simp only [Option.any_eq_true, Bool.not_eq_true']
  exact ⟨fun trimmed => ⟨trimmed.first, trimmed.last⟩, fun ends => ⟨ends.1, ends.2⟩⟩

instance (text : List Char) : Decidable (Trimmed text) := decidable_of_iff _ trimmed_iff.symm

theorem Trimmed.append {left middle right : List Char} (left_trimmed : Trimmed left)
    (right_trimmed : Trimmed right) : Trimmed (left ++ (middle ++ right)) := by
  obtain ⟨first, starts, first_solid⟩ := left_trimmed.first
  obtain ⟨last, ends, last_solid⟩ := right_trimmed.last
  rw [Option.mem_def] at starts ends
  exact ⟨⟨first, by simp [List.head?_append, starts], first_solid⟩,
    ⟨last, by simp [List.getLast?_append, ends], last_solid⟩⟩

theorem char_of_mem_getLast?_glyphs {text : List Char} {glyph : Glyph}
    (member : glyph ∈ (glyphs none text).getLast?) : glyph.char ∈ text.getLast? := by
  have chars := List.getLast?_map (f := Glyph.char) (l := glyphs none text)
  rw [Option.mem_def.mp member, map_char_glyphs] at chars
  exact chars

theorem head?_glyphs (text : List Char) :
    (glyphs none text).head? = text.head?.map fun char => ⟨char, isQuote char⟩ := by
  cases text <;> simp [glyphs]

theorem Glyph.isWhiteSpace_of_kind {glyph : Glyph} (space : glyph.kind = .space) :
    Text.isWhiteSpace glyph.char = true := by
  rw [kind] at space
  split at space
  · cases space
  · split at space
    · assumption
    · split at space
      · cases space
      · split at space <;> cases space

theorem Glyph.glued_of_kind_ne {left right : Glyph} (differ : left.kind ≠ right.kind) :
    left.glued right = false := by
  simp [glued, differ]

theorem Glyph.glued_of_mark {left right : Glyph} (mark : left.kind = .mark ∨ right.kind = .mark) :
    left.glued right = false := by
  rcases mark with mark | mark
  · simp [glued, mark]
  · cases kind : left.kind <;> simp [glued, kind, mark]

/-- A space may follow a text that does not end at one. -/
theorem Trimmed.apart_space {left : List Char} (trimmed : Trimmed left) (right : List Char) :
    Apart left (' ' :: right) := by
  intro last ends first starts
  obtain rfl : ⟨' ', false⟩ = first := by simpa [head?_glyphs, isQuote] using starts
  obtain ⟨char, member, solid⟩ := trimmed.last
  have same : last.char = char :=
    Option.mem_unique (char_of_mem_getLast?_glyphs ends) member
  apply Glyph.glued_of_kind_ne
  intro space
  have white := Glyph.isWhiteSpace_of_kind (space.trans rfl)
  rw [same, solid] at white
  cases white

/-- A text that does not start at a space may follow one. -/
theorem Trimmed.space_apart {left right : List Char}
    (space : (glyphs none left).getLast? = some ⟨' ', false⟩) (trimmed : Trimmed right) :
    Apart left right := by
  intro last ends first starts
  obtain rfl : ⟨' ', false⟩ = last := by simpa [space] using ends
  obtain ⟨char, member, solid⟩ := trimmed.first
  obtain rfl : ⟨char, isQuote char⟩ = first := by
    simpa [head?_glyphs, Option.mem_def.mp member] using starts
  apply Glyph.glued_of_kind_ne
  intro same
  have white := Glyph.isWhiteSpace_of_kind (same.symm.trans rfl)
  rw [solid] at white
  cases white

theorem apart_closing (left right : List Char) : Apart left (')' :: right) := by
  intro last _ first starts
  obtain rfl : ⟨')', false⟩ = first := by simpa [head?_glyphs, isQuote] using starts
  exact Glyph.glued_of_mark (.inr rfl)

theorem opening_apart {left : List Char} (right : List Char)
    (opening : (glyphs none left).getLast? = some ⟨'(', false⟩) : Apart left right := by
  intro last ends first _
  obtain rfl : ⟨'(', false⟩ = last := by simpa [opening] using ends
  exact Glyph.glued_of_mark (.inl rfl)

/-! ## Tokens -/

/-- Every placeholder takes the next value; all values are taken. -/
def assign : List Lexeme → List Value → Option (List Token)
  | [], [] => some []
  | [], _ :: _ => none
  | .token token :: lexemes, values => (assign lexemes values).map (token :: ·)
  | .placeholder :: _, [] => none
  | .placeholder :: lexemes, value :: values => (assign lexemes values).map (.value value :: ·)

/-- The tokens of a statement with its values. -/
def tokens? (fragment : Fragment) : Option (List Token) :=
  if QuotationsEnd fragment.sql.toList then
    assign (lexemes fragment.sql.toList) fragment.params
  else none

theorem tokens?_eq_some_iff {fragment : Fragment} {tokens : List Token} :
    tokens? fragment = some tokens ↔
      QuotationsEnd fragment.sql.toList ∧
        assign (lexemes fragment.sql.toList) fragment.params = some tokens := by
  simp [tokens?]

theorem assign_append {left right : List Lexeme} {values others : List Value}
    {leftTokens rightTokens : List Token} (left_assigned : assign left values = some leftTokens)
    (right_assigned : assign right others = some rightTokens) :
    assign (left ++ right) (values ++ others) = some (leftTokens ++ rightTokens) := by
  fun_induction assign left values generalizing leftTokens with
  | case1 =>
      cases left_assigned
      simpa using right_assigned
  | case2 => cases left_assigned
  | case3 values token lexemes induction =>
      obtain ⟨tokens, rest, rfl⟩ := Option.map_eq_some_iff.mp left_assigned
      simp [assign, induction rest]
  | case4 => cases left_assigned
  | case5 lexemes value values induction =>
      obtain ⟨tokens, rest, rfl⟩ := Option.map_eq_some_iff.mp left_assigned
      simp [assign, induction rest]

theorem tokens?_append {left right : Fragment} {leftTokens rightTokens : List Token}
    (apart : Apart left.sql.toList right.sql.toList)
    (left_tokens : tokens? left = some leftTokens)
    (right_tokens : tokens? right = some rightTokens) :
    tokens? (left ++ right) = some (leftTokens ++ rightTokens) := by
  rw [tokens?_eq_some_iff] at left_tokens right_tokens ⊢
  rw [Fragment.sql_append, String.toList_append, Fragment.params_append,
    lexemes_append left_tokens.1 apart]
  exact ⟨left_tokens.1.append right_tokens.1, assign_append left_tokens.2 right_tokens.2⟩

/-! ## Fragments between spaces -/

/-- The fragment has the tokens, and spaces around it belong to none of them. -/
structure Reads (fragment : Fragment) (tokens : List Token) : Prop where
  tokens : tokens? fragment = some tokens
  trimmed : Trimmed fragment.sql.toList

/-- A name, which may have parts with dots between them, that is no keyword. -/
structure IsColumn (text : String) : Prop where
  nonempty : text ≠ ""
  wordChars : ∀ char ∈ text.toList, isWordChar char = true
  notKeyword : Keyword.ofWord? text = none

instance (text : String) : Decidable (IsColumn text) :=
  decidable_of_iff
    (text ≠ "" ∧ text.toList.all isWordChar = true ∧ Keyword.ofWord? text = none)
    ⟨fun ⟨nonempty, words, known⟩ => ⟨nonempty, List.all_eq_true.mp words, known⟩,
      fun plain => ⟨plain.nonempty, List.all_eq_true.mpr plain.wordChars, plain.notKeyword⟩⟩

theorem solid_of_isWordCode : ∀ code < 0x80, isWordChar (Char.ofNat code) = true →
    isQuote (Char.ofNat code) = false ∧ Text.isWhiteSpace (Char.ofNat code) = false := by
  decide +kernel

theorem solid_of_isWordChar {char : Char} (word : isWordChar char = true) :
    isQuote char = false ∧ Text.isWhiteSpace char = false := by
  by_cases ascii : char.toNat < 0x80
  · have coded := solid_of_isWordCode char.toNat ascii
    rw [Char.ofNat_toNat] at coded
    exact coded word
  · have solid : Text.isWhiteSpace char = false := by simpa [isWordChar, ascii] using word
    have single : char ≠ '\'' := by
      rintro rfl
      exact ascii (by decide)
    have double : char ≠ '"' := by
      rintro rfl
      exact ascii (by decide)
    have backward : char.toNat ≠ 0x60 := by omega
    simp [isQuote, single, double, backward, solid]

/-- The characters of a word are no part of a quotation. -/
theorem glyphs_of_wordChars {text : List Char} (words : ∀ char ∈ text, isWordChar char = true) :
    QuotationsEnd text ∧ glyphs none text = text.map fun char => ⟨char, false⟩ := by
  induction text with
  | nil => exact ⟨rfl, rfl⟩
  | cons char text induction =>
      have unquoted := (solid_of_isWordChar (words char (by simp))).1
      obtain ⟨ends, others⟩ := induction fun other member => words other (by simp [member])
      rw [QuotationsEnd] at ends ⊢
      simp [glyphs, quoteAfter, unquoted, others, ends]

theorem Glyph.kind_of_isWordChar {char : Char} (word : isWordChar char = true) :
    kind ⟨char, false⟩ = .word := by
  simp [kind, (solid_of_isWordChar word).2, word]

namespace IsColumn

variable {text : String}

theorem lexemes_eq (plain : IsColumn text) : lexemes text.toList = [.token (.name text)] := by
  have glyphs_eq := (glyphs_of_wordChars plain.wordChars).2
  have kinds : ∀ glyph ∈ glyphs none text.toList, glyph.kind = .word := by
    rw [glyphs_eq]
    simpa using fun char member => Glyph.kind_of_isWordChar (plain.wordChars char member)
  have chain : (glyphs none text.toList).IsChain fun left right => left.glued right = true := by
    apply List.Pairwise.isChain
    apply List.pairwise_of_forall_mem_list
    intro left left_member right right_member
    simp [Glyph.glued, kinds left left_member, kinds right right_member]
  obtain ⟨first, rest, whole⟩ := List.exists_cons_of_ne_nil
    (show glyphs none text.toList ≠ [] by simpa [glyphs_eq] using plain.nonempty)
  have chars := map_char_glyphs none text.toList
  rw [whole] at chars kinds chain
  rw [lexemes, whole, List.splitBy_of_isChain (by simp) chain]
  simp [Lexeme.ofRun?, kinds first (by simp), chars, Token.ofWord, plain.notKeyword]

theorem trimmed (plain : IsColumn text) : Trimmed text.toList := by
  have present : text.toList ≠ [] := by simpa using plain.nonempty
  constructor
  · exact ⟨text.toList.head present, List.head?_eq_some_head present,
      (solid_of_isWordChar (plain.wordChars _ (List.head_mem present))).2⟩
  · exact ⟨text.toList.getLast present, List.getLast?_eq_some_getLast present,
      (solid_of_isWordChar (plain.wordChars _ (List.getLast_mem present))).2⟩

end IsColumn

namespace Keyword

def spaced (keyword : Keyword) : String := " " ++ keyword.word ++ " "

theorem tokens?_spaced (keyword : Keyword) :
    tokens? (.ofText keyword.spaced) = some [.keyword keyword] := by
  cases keyword <;> rfl

theorem getLast?_glyphs_spaced (keyword : Keyword) :
    (glyphs none keyword.spaced.toList).getLast? = some ⟨' ', false⟩ := by
  cases keyword <;> rfl

end Keyword

namespace Reads

/-- Text and values may follow behind a space. -/
theorem append_spaced {left right : Fragment} {leftTokens rightTokens : List Token}
    {text : String} (reads : Reads left leftTokens) (spaced : right.sql = " " ++ text)
    (right_tokens : tokens? right = some rightTokens) (right_trimmed : Trimmed text.toList) :
    Reads (left ++ right) (leftTokens ++ rightTokens) where
  tokens := by
    apply tokens?_append _ reads.tokens right_tokens
    rw [spaced, String.toList_append]
    exact reads.trimmed.apart_space text.toList
  trimmed := by
    rw [Fragment.sql_append, spaced, String.toList_append, String.toList_append]
    exact reads.trimmed.append right_trimmed

theorem parenthesized {part : Fragment} {tokens : List Token}
    (part_tokens : tokens? part = some tokens) :
    Reads (part.wrap "(" ")") (.opening :: tokens ++ [.closing]) where
  tokens := by
    have opened : tokens? (.ofText "(" ++ part) = some ([.opening] ++ tokens) :=
      tokens?_append (opening_apart _ rfl) rfl part_tokens
    exact tokens?_append (apart_closing _ []) opened rfl
  trimmed := by
    rw [Fragment.sql_wrap, String.toList_append, String.toList_append, List.append_assoc]
    exact Trimmed.append (by decide +kernel) (by decide +kernel)

/-- A keyword with spaces around it joins two fragments. -/
theorem append_keyword {left right : Fragment} {leftTokens rightTokens : List Token}
    (left_reads : Reads left leftTokens) (right_reads : Reads right rightTokens)
    (keyword : Keyword) :
    Reads (left ++ .ofText keyword.spaced ++ right)
      (leftTokens ++ [.keyword keyword] ++ rightTokens) where
  tokens := by
    have spaced : tokens? (left ++ .ofText keyword.spaced) =
        some (leftTokens ++ [.keyword keyword]) := by
      apply tokens?_append _ left_reads.tokens keyword.tokens?_spaced
      rw [Fragment.sql_ofText, Keyword.spaced, String.append_assoc, String.toList_append]
      exact left_reads.trimmed.apart_space _
    apply tokens?_append _ spaced right_reads.tokens
    apply right_reads.trimmed.space_apart
    rw [Fragment.sql_append, String.toList_append, glyphs_append, List.getLast?_append,
      show left.sql.toList.foldl quoteAfter none = none from
        (tokens?_eq_some_iff.mp left_reads.tokens).1,
      Fragment.sql_ofText, keyword.getLast?_glyphs_spaced]
    rfl
  trimmed := by
    rw [Fragment.sql_append, Fragment.sql_append, String.toList_append, String.toList_append,
      List.append_assoc]
    exact left_reads.trimmed.append right_reads.trimmed

/-- A keyword with spaces around it joins any number of fragments. -/
theorem join {parts : List Fragment} {tokens : List (List Token)} (present : parts ≠ [])
    (each : List.Forall₂ Reads parts tokens) (keyword : Keyword) :
    Reads (Fragment.join keyword.spaced parts) ([.keyword keyword].intercalate tokens) := by
  induction each with
  | nil => contradiction
  | cons first others induction =>
      cases others with
      | nil => simpa [Fragment.join] using first
      | cons next others =>
          have joined := first.append_keyword (induction (by simp)) keyword
          simpa [Fragment.join] using joined

theorem ofText_column {text : String} (plain : IsColumn text) :
    Reads (.ofText text) [.name text] where
  tokens := by
    rw [tokens?_eq_some_iff, Fragment.sql_ofText, plain.lexemes_eq]
    exact ⟨(glyphs_of_wordChars plain.wordChars).1, rfl⟩
  trimmed := plain.trimmed

theorem ofText_folded {text : String} (plain : IsColumn text) :
    Reads (.ofText ("upper(" ++ text ++ ")"))
      [.name "upper", .opening, .name text, .closing] where
  tokens := by
    have opened : tokens? (.ofText "upper(" ++ .ofText text) =
        some ([.name "upper", .opening] ++ [.name text]) :=
      tokens?_append (opening_apart _ rfl) rfl (ofText_column plain).tokens
    rw [Fragment.ofText_append, Fragment.ofText_append]
    exact tokens?_append (apart_closing _ []) opened rfl
  trimmed := by
    rw [Fragment.sql_ofText, String.toList_append, String.toList_append, List.append_assoc]
    exact Trimmed.append (by decide +kernel) (by decide +kernel)

end Reads

end EntitySearch.WhereClause
