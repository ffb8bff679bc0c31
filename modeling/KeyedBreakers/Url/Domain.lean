import KeyedBreakers.Unicode.Composition
import KeyedBreakers.Unicode.Direction
import KeyedBreakers.Unicode.Folding
import KeyedBreakers.Unicode.Joiners
import KeyedBreakers.Url.Percent
import KeyedBreakers.Url.Punycode

/-!
# Domain names in ASCII

A domain name is written in any script and looked up in ASCII. The name is folded and composed, cut
into labels at the points, and each label outside ASCII is written with the mark `xn--` and its
Punycode form. A label that already has the mark must be the ASCII form of a label outside ASCII.

A label is checked in the form that readers see: it stands as folding and composing leave it, does
not begin with a combining mark, and has joiners only where they have an effect. The labels of one
name agree in their directions. No character of the result is one that addresses use as a delimiter.

* `Label.ofText?` — the two forms of a label;
* `toAscii?` — the ASCII form of a name;
* `isDomainChar_of_mem_toAscii?` — its alphabet.
-/

namespace KeyedBreakers.Url

open KeyedBreakers.Text KeyedBreakers.Unicode

/-- The ASCII characters that no domain name has: controls, the delimiters of addresses, and the
percent sign. -/
def isForbiddenInDomain (c : Char) : Bool :=
  EncodeSet.controls c || c == ' ' || c == '#' || c == '/' || c == ':' || c == '<' || c == '>'
    || c == '?' || c == '@' || c == '[' || c == '\\' || c == ']' || c == '^' || c == '|' || c == '%'

/-- A character of a domain name in ASCII. -/
def isDomainChar (c : Char) : Bool :=
  c.toNat < 0x80 && !isForbiddenInDomain c

/-! ### Labels -/

/-- A label as readers see it and as it is looked up. -/
structure Label where
  shown : List Char
  ascii : List Char

namespace Label

/-- The mark of a label that stands for one outside ASCII. -/
def mark : List Char := ['x', 'n', '-', '-']

/-- How many characters a label outside ASCII may have. -/
def shownLimit : Nat := 1000

/-- How many characters may follow the mark. -/
def asciiLimit : Nat := 2000

/-- Whether folding and composing leave the text as it is. -/
def isSettled (label : List Char) : Bool :=
  foldText? label = some label && compose label = label

/-- Whether a label outside ASCII may be shown. -/
def fits (label : List Char) : Bool :=
  isSettled label && !(label.head?.map isMark).getD false && joinersFit label

/-- The label for which the text after the mark stands. -/
def ofMarked? (code : List Char) : Option Label :=
  if code = [] ∨ code.getLast? = some '-' ∨ asciiLimit < code.length then none
  else do
    let shown ← Punycode.decode? code
    if fits shown && !shown.contains '.' then some ⟨shown, mark ++ code⟩ else none

/-- The ASCII form of a label outside ASCII. It is taken only if it reads back as the label. -/
def ofShown? (shown : List Char) : Option Label :=
  let code := Punycode.encode shown
  if fits shown ∧ shown.length ≤ shownLimit ∧ Punycode.decode? code = some shown then
    some ⟨shown, mark ++ code⟩
  else none

/-- The two forms of a folded and composed label. -/
def ofText? (label : List Char) : Option Label :=
  let isAscii := label.all (·.toNat < 0x80)
  match dropText? mark label with
  | some code => if isAscii then ofMarked? code else none
  | none => if isAscii then some ⟨label, label⟩ else ofShown? label

/-- A label is its own ASCII form, or it is outside ASCII and has been encoded. -/
theorem ofText?_cases {text : List Char} {label : Label} (h : ofText? text = some label) :
    label.ascii = text ∨
      (text.all (·.toNat < 0x80) = false ∧ fits text = true ∧
        Punycode.decode? (Punycode.encode text) = some text ∧
        label = ⟨text, mark ++ Punycode.encode text⟩) := by
  unfold ofText? at h
  dsimp only at h
  split at h
  · next code h_code =>
    split at h
    · unfold ofMarked? at h
      split at h
      · cases h
      · rw [Option.bind_eq_bind, Option.bind_eq_some_iff] at h
        obtain ⟨shown, -, h⟩ := h
        split at h
        · obtain rfl := Option.some.inj h
          exact .inl (eq_of_dropText? h_code).symm
        · cases h
    · cases h
  · split at h
    · obtain rfl := Option.some.inj h
      exact .inl rfl
    · next h_high =>
      unfold ofShown? at h
      dsimp only at h
      split at h
      · next h_fits =>
        exact .inr ⟨Bool.eq_false_iff.2 h_high, h_fits.1, h_fits.2.2, (Option.some.inj h).symm⟩
      · cases h

end Label

/-! ### Names -/

/-- The name whose labels have the given ASCII forms. -/
def joinLabels (labels : List Label) : List Char :=
  joinWith ['.'] (labels.map Label.ascii)

/-- The ASCII form of a domain name, or `none` if it has none. -/
def toAscii? (name : List Char) : Option (List Char) := do
  let folded ← foldText? name
  let labels ← (pieces '.' (compose folded)).mapM Label.ofText?
  if directionsAgree (labels.map Label.shown) && (joinLabels labels).all isDomainChar then
    some (joinLabels labels)
  else none

/-- The ASCII form of a name has no delimiter of addresses in it. -/
theorem isDomainChar_of_mem_toAscii? {name ascii : List Char} (h : toAscii? name = some ascii) :
    ∀ c ∈ ascii, isDomainChar c = true := by
  simp only [toAscii?, Option.bind_eq_bind, Option.bind_eq_some_iff] at h
  obtain ⟨folded, -, labels, -, h⟩ := h
  split at h
  · next hall =>
    obtain rfl := Option.some.inj h
    exact List.all_eq_true.1 (Bool.and_eq_true_iff.1 hall).2
  · simp at h

end KeyedBreakers.Url
