/-
Module: ScopedQuery.Proofs.TextScan
Purpose: The SQL text of a string literal is read back by a scanner of quoted
  strings, whatever the string is and whatever follows.
Trusted boundary: none
Main exports:
  Scan.body?, Scan.quoted?, Scan.body?_doubleQuotes_append,
  Scan.body?_eq_some_iff, Scan.quoted?_eq_some_iff, quoted_text_is_scanned
-/
import ScopedQuery.Expr.Display

namespace ScopedQuery

/-!
A reader of SQL takes a string from its opening quote to the first quote that is
not followed by another one, and a pair of quotes for one quote of the string.
It decides at each quote by the character behind it.  So what it does with a
quoted string depends on the text behind the closing quote, but only on whether
that text begins with a quote.
-/

namespace Scan

/-! ## The scanner -/

/-- The characters of a string and what is left, from behind the opening quote.
There is no string without a closing quote. -/
def body? : List Char → Option (List Char × List Char)
  | '\x27' :: '\x27' :: input =>
      (body? input).map fun (text, rest) => ('\x27' :: text, rest)
  | '\x27' :: input => some ([], input)
  | char :: input => (body? input).map fun (text, rest) => (char :: text, rest)
  | [] => none

/-- The string in quotes with which a text begins, and what is left. -/
def quoted? (input : String) : Option (String × String) :=
  match input.toList with
  | '\x27' :: input =>
      (body? input).map fun (text, rest) =>
        (String.ofList text, String.ofList rest)
  | _ => none

/-- The text begins with a quote. -/
def BeginsWithQuote (chars : List Char) : Prop :=
  chars.head? = some '\x27'

/-! ## The characters between the quotes -/

theorem body?_quote {input : List Char} (apart : ¬ BeginsWithQuote input) :
    body? ('\x27' :: input) = some ([], input) := by
  cases input with
  | nil => rfl
  | cons char input =>
      have other : char ≠ '\x27' := by
        rintro rfl
        exact apart rfl
      rw [body?]
      simpa using other

theorem body?_cons {char : Char} (other : char ≠ '\x27') (input : List Char) :
    body? (char :: input) =
      (body? input).map fun (text, rest) => (char :: text, rest) := by
  rw [body?] <;> simp [other]

/-- Doubled quotes are read as the characters that they were made of, and reading
goes on behind them. -/
theorem body?_doubleQuotes_append (text input : List Char) :
    body? (Literal.doubleQuotes text ++ input) =
      (body? input).map fun (more, rest) => (text ++ more, rest) := by
  induction text with
  | nil => simp [Literal.doubleQuotes]
  | cons char text inductionHypothesis =>
      by_cases quote : char = '\x27'
      · subst quote
        simp [Literal.doubleQuotes, body?, inductionHypothesis,
          Function.comp_def]
      · simp [Literal.doubleQuotes, quote, body?_cons quote,
          inductionHypothesis, Function.comp_def]

/-- A string is read exactly where its characters stand with their quotes doubled,
before a quote that is not doubled. -/
theorem body?_eq_some_iff {input text rest : List Char} :
    body? input = some (text, rest) ↔
      input = Literal.doubleQuotes text ++ '\x27' :: rest ∧
        ¬ BeginsWithQuote rest := by
  constructor
  · intro read
    fun_induction body? input generalizing text with
    | case1 input inductionHypothesis =>
        obtain ⟨⟨inner, left⟩, found, same⟩ := Option.map_eq_some_iff.mp read
        cases same
        obtain ⟨rfl, apart⟩ := inductionHypothesis found
        exact ⟨by simp [Literal.doubleQuotes], apart⟩
    | case2 input single =>
        cases read
        refine ⟨rfl, ?_⟩
        intro begins
        obtain ⟨more, rfl⟩ := List.head?_eq_some_iff.mp begins
        exact single more rfl
    | case3 char input noPair noQuote inductionHypothesis =>
        obtain ⟨⟨inner, left⟩, found, same⟩ := Option.map_eq_some_iff.mp read
        cases same
        have other : char ≠ '\x27' := noQuote
        obtain ⟨rfl, apart⟩ := inductionHypothesis found
        exact ⟨by simp [Literal.doubleQuotes, other], apart⟩
    | case4 => cases read
  · rintro ⟨rfl, apart⟩
    rw [body?_doubleQuotes_append, body?_quote apart]
    simp

/-! ## Whole literals -/

theorem toList_quote_append (text rest : String) :
    (Literal.quote text ++ rest).toList =
      '\x27' :: (Literal.doubleQuotes text.toList ++ '\x27' :: rest.toList) := by
  simp [Literal.quote]

/-- A scan begins at a quote. -/
theorem quoted?_eq_some_iff_body? {input text rest : String} :
    quoted? input = some (text, rest) ↔
      ∃ chars, input.toList = '\x27' :: chars ∧
        body? chars = some (text.toList, rest.toList) := by
  unfold quoted?
  split
  · next chars opened =>
      rw [opened, Option.map_eq_some_iff]
      constructor
      · rintro ⟨⟨inner, left⟩, found, same⟩
        cases same
        exact ⟨chars, rfl, by simpa using found⟩
      · rintro ⟨_, same, found⟩
        cases same
        exact ⟨_, found, by simp⟩
  · next closed =>
      simp only [reduceCtorEq, false_iff]
      rintro ⟨chars, opened, -⟩
      exact closed chars opened

/-- A string is read exactly where a text begins with the literal of that string and
goes on without a quote. -/
theorem quoted?_eq_some_iff {input text rest : String} :
    quoted? input = some (text, rest) ↔
      input = Literal.quote text ++ rest ∧ ¬ BeginsWithQuote rest.toList := by
  rw [quoted?_eq_some_iff_body?, ← String.toList_inj, toList_quote_append]
  constructor
  · rintro ⟨chars, opened, found⟩
    obtain ⟨rfl, apart⟩ := body?_eq_some_iff.mp found
    exact ⟨opened, apart⟩
  · rintro ⟨whole, apart⟩
    exact ⟨_, whole, body?_eq_some_iff.mpr ⟨rfl, apart⟩⟩

/-- Whatever follows a literal, a scan of it reads all of its string before it
stops. -/
theorem prefix_of_quoted?_quote {text following read rest : String}
    (found : quoted? (Literal.quote text ++ following) = some (read, rest)) :
    text.toList <+: read.toList ∧ rest.toList <:+ following.toList := by
  obtain ⟨chars, opened, body⟩ := quoted?_eq_some_iff_body?.mp found
  rw [toList_quote_append] at opened
  obtain ⟨-, rfl⟩ := List.cons.inj opened
  rw [body?_doubleQuotes_append, Option.map_eq_some_iff] at body
  obtain ⟨⟨more, left⟩, behind, same⟩ := body
  obtain ⟨extended, rfl⟩ := Prod.mk.inj same
  refine ⟨⟨more, extended⟩, ?_⟩
  -- The closing quote is read again, with what follows it: as the end of the string
  -- or as the first of a pair.
  obtain ⟨whole, -⟩ := body?_eq_some_iff.mp behind
  cases doubled : Literal.doubleQuotes more with
  | nil =>
      rw [doubled] at whole
      obtain ⟨-, same⟩ := List.cons.inj whole
      exact ⟨[], same.symm⟩
  | cons char chars =>
      rw [doubled] at whole
      obtain ⟨-, longer⟩ := List.cons.inj whole
      exact ⟨chars ++ ['\x27'], by simp [longer]⟩

end Scan

/-- The SQL text of a string can be read in one way only.  A scan of the literal,
followed by any text that does not begin with a quote, gives the string and leaves
that text; and it gives the string only where the literal stands.  So different
strings have different literals.  Nor is a literal closed too early, whatever
follows it: a scan that stops has read the whole string and has left no more than
what followed. -/
theorem quoted_text_is_scanned (text : String) :
    let shown := (Literal.text text).render
    (Expr.constant (.text text)).render = shown ∧
    (∀ following : String, ¬ Scan.BeginsWithQuote following.toList →
      Scan.quoted? (shown ++ following) = some (text, following)) ∧
    (∀ input rest, Scan.quoted? input = some (text, rest) →
      input = shown ++ rest) ∧
    (∀ other, (Literal.text other).render = shown → other = text) ∧
    (∀ following read rest : String,
      Scan.quoted? (shown ++ following) = some (read, rest) →
      text.toList <+: read.toList ∧ rest.toList <:+ following.toList) := by
  intro shown
  have scanned : ∀ text following : String,
      ¬ Scan.BeginsWithQuote following.toList →
      Scan.quoted? ((Literal.text text).render ++ following) =
        some (text, following) := by
    intro text following apart
    exact Scan.quoted?_eq_some_iff.mpr ⟨rfl, apart⟩
  refine ⟨rfl, scanned text, ?_, ?_, ?_⟩
  · intro input rest found
    exact (Scan.quoted?_eq_some_iff.mp found).1
  · intro other same
    have nothing : ¬ Scan.BeginsWithQuote "".toList := by
      simp [Scan.BeginsWithQuote]
    have readOther := scanned other "" nothing
    rw [same, scanned text "" nothing] at readOther
    cases readOther
    rfl
  · intro following read rest found
    exact Scan.prefix_of_quoted?_quote found

/-- A string that is made to look like the end of a literal comes back whole. -/
example : Scan.quoted? "'''; DROP TABLE c; ''' AS n" =
    some ("'; DROP TABLE c; '", " AS n") := by
  decide

end ScopedQuery
