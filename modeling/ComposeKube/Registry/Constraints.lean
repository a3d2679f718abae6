import Mathlib.Data.List.TakeWhile
import ComposeKube.Lib.Regex
import ComposeKube.Registry.Validate

/-!
# Placement constraints of a compose file

`fromComposeConstraints`: constraints such as `node.hostname != worker` are texts in a
compose file. A regular expression takes them apart, and the parts are recorded in one
field for each of the known node attributes and in one entry for each node label.

The expression is not anchored, and its groups consist of word characters and dots. A
key or a value with another character in it is cut off there without an error.

* `search_constraintEquals` — how a well-formed text is taken apart.
* `addConstraint_text` — what is recorded for it.
* `fromComposeConstraints_exact_iff` — when this is what the text says.
-/

namespace ComposeKube

open Go

/-! ## The expression -/

/-- `\w`. -/
def isWordChar (c : Char) : Bool :=
  ('0' ≤ c && c ≤ '9') || ('A' ≤ c && c ≤ 'Z') || c = '_' || ('a' ≤ c && c ≤ 'z')

/-- `[\w\.]`. -/
def isWordOrDot (c : Char) : Bool := isWordChar c || c = '.'

/-- `\W`. -/
def isNotWord (c : Char) : Bool := !isWordChar c

/-- `(==|!=)`, the second group. -/
def operatorGroup : Regex := .group 2 (.alt (.lit ['=', '=']) (.lit ['!', '=']))

/-- `constraintEquals`. -/
def constraintEquals : Regex :=
  .seq (.group 1 (.star isWordOrDot)) <| .seq (.star isNotWord) <| .seq operatorGroup <|
    .seq (.star isNotWord) (.group 3 (.star isWordOrDot))

/-! ## The conversion -/

def swarmOs : String := "node.platform.os"

def swarmArch : String := "node.platform.arch"

def swarmHostname : String := "node.hostname"

def swarmLabelPrefix : String := "node.labels."

/-- The body of the loop of `fromComposeConstraints`. -/
def addConstraint (constraints : Latest.Constraints) (constraint : String) : Latest.Constraints :=
  match constraintEquals.findStringSubmatch 3 constraint with
  | [_, key, operator, value] =>
    let constraint : Latest.Constraint := { operator, value }
    if key = swarmOs then { constraints with operatingSystem := some constraint }
    else if key = swarmArch then { constraints with architecture := some constraint }
    else if key = swarmHostname then { constraints with hostname := some constraint }
    else if hasPrefix key swarmLabelPrefix then
      { constraints with
        matchLabels := some
          (constraints.matchLabels.entries.insert (trimPrefix key swarmLabelPrefix) constraint) }
    else constraints
  | _ => constraints

/-- `fromComposeConstraints`. -/
def fromComposeConstraints (s : List String) : Option Latest.Constraints :=
  if s.length = 0 then none else some (s.foldl addConstraint default)

theorem fromComposeConstraints_cons (constraint : String) (rest : List String) :
    fromComposeConstraints (constraint :: rest) =
      some ((constraint :: rest).foldl addConstraint default) := by
  rw [fromComposeConstraints, if_neg (by simp)]

/-! ## Texts of constraints -/

/-- The keys that are supported. -/
inductive NodeKey where
  | os
  | arch
  | hostname
  | label (key : String)
  deriving DecidableEq

namespace NodeKey

def text : NodeKey → String
  | os => swarmOs
  | arch => swarmArch
  | hostname => swarmHostname
  | label key => swarmLabelPrefix ++ key

/-- The place where a constraint on the key belongs. -/
def record (key : NodeKey) (constraint : Latest.Constraint) (constraints : Latest.Constraints) :
    Latest.Constraints :=
  match key with
  | os => { constraints with operatingSystem := some constraint }
  | arch => { constraints with architecture := some constraint }
  | hostname => { constraints with hostname := some constraint }
  | label key =>
    { constraints with matchLabels := some (constraints.matchLabels.entries.insert key constraint) }

/-- What is recorded for the key. -/
def find (key : NodeKey) (constraints : Latest.Constraints) : Option Latest.Constraint :=
  match key with
  | os => constraints.operatingSystem
  | arch => constraints.architecture
  | hostname => constraints.hostname
  | label key => constraints.matchLabels.get? key

end NodeKey

inductive EqualityOperator where
  | equal
  | notEqual
  deriving DecidableEq

def EqualityOperator.text : EqualityOperator → String
  | equal => "=="
  | notEqual => "!="

/-- A constraint as it is written: a key, an operator and a value, with blanks around the
operator. -/
structure ConstraintText where
  key : NodeKey
  before : List Char
  operator : EqualityOperator
  after : List Char
  value : String
  before_blank : ∀ c ∈ before, c.isWhitespace = true
  after_blank : ∀ c ∈ after, c.isWhitespace = true

namespace ConstraintText

def text (c : ConstraintText) : String :=
  String.ofList (c.key.text.toList ++
    (c.before ++ (c.operator.text.toList ++ (c.after ++ c.value.toList))))

/-- The constraint that is written. -/
def constraint (c : ConstraintText) : Latest.Constraint :=
  { operator := c.operator.text, value := c.value }

end ConstraintText

/-- Word characters and dots only. -/
def WordsAndDots (s : String) : Prop := ∀ c ∈ s.toList, isWordOrDot c = true

instance (s : String) : Decidable (WordsAndDots s) :=
  decidable_of_iff (s.toList.all isWordOrDot = true) List.all_eq_true

/-- A value as the expression reads it: without the dots in front. -/
def readValue (value : String) : String := String.ofList (value.toList.dropWhile (· = '.'))

/-! ## Characters -/

theorem isWordOrDot_of_whitespace {c : Char} (h : c.isWhitespace = true) :
    isWordOrDot c = false := by
  simp only [Char.isWhitespace, Bool.or_eq_true, decide_eq_true_eq] at h
  rcases h with ((rfl | rfl) | rfl) | rfl <;> decide

theorem isNotWord_of_not_isWordOrDot {c : Char} (h : isWordOrDot c = false) :
    isNotWord c = true := by
  have hword : isWordChar c = false := (Bool.or_eq_false_iff.mp h).1
  rw [isNotWord, hword]
  rfl

theorem isNotWord_of_whitespace {c : Char} (h : c.isWhitespace = true) : isNotWord c = true :=
  isNotWord_of_not_isWordOrDot (isWordOrDot_of_whitespace h)

theorem NodeKey.wordsAndDots_text {key : NodeKey} (h : ∀ l, key = .label l → WordsAndDots l) :
    WordsAndDots key.text := by
  cases key with
  | os => decide
  | arch => decide
  | hostname => decide
  | label l =>
    have hstem : WordsAndDots swarmLabelPrefix := by decide
    intro c hc
    rw [NodeKey.text, String.toList_append, List.mem_append] at hc
    exact hc.elim (hstem c) (h l rfl c)

/-! ## Taking a text apart -/

/-- The operator ends where it begins a second time. -/
theorem operatorGroup_first_eq_none {s : List Char} (h : '=' ∉ s.tail) :
    operatorGroup.first s = none := by
  have hlit : ∀ x, ¬[x, '='] <+: s := by
    rintro x ⟨t, rfl⟩
    exact h (by simp)
  rw [operatorGroup, Regex.first_group, Regex.first_alt, Regex.first_lit_eq_none (hlit '='),
    Regex.first_lit_eq_none (hlit '!')]
  rfl

/-- The expression reads the operator. -/
theorem operatorGroup_first (operator : EqualityOperator) (u : List Char) :
    operatorGroup.first (operator.text.toList ++ u) =
      some { text := operator.text.toList, rest := u, groups := [(2, operator.text.toList)] } := by
  rw [operatorGroup, Regex.first_group, Regex.first_alt]
  cases operator with
  | equal =>
    rw [show EqualityOperator.equal.text.toList = ['=', '='] by decide, Regex.first_lit]
    rfl
  | notEqual =>
    -- the first alternative does not match, and the second does
    have hnone : (Regex.lit ['=', '=']).first ('!' :: '=' :: u) = none := by
      refine Regex.first_lit_eq_none ?_
      rintro ⟨t, ht⟩
      exact absurd (List.cons.inj ht).1 (by decide)
    have hsome := Regex.first_lit ['!', '='] u
    simp only [List.cons_append, List.nil_append] at hsome
    rw [show EqualityOperator.notEqual.text.toList = ['!', '='] by decide, List.cons_append,
      List.cons_append, List.nil_append, hnone, hsome]
    rfl

theorem operator_text (operator : EqualityOperator) :
    ∃ o, operator.text.toList = [o, '='] ∧ isWordOrDot o = false := by
  cases operator with
  | equal => exact ⟨'=', by decide, by decide⟩
  | notEqual => exact ⟨'!', by decide, by decide⟩

/-- What comes after the operator: blanks and dots are skipped, the rest is the value. -/
theorem first_value {after value : List Char} (hafter : ∀ c ∈ after, c.isWhitespace = true)
    (hvalue : ∀ c ∈ value, isWordOrDot c = true) :
    (Regex.seq (.star isNotWord) (.group 3 (.star isWordOrDot))).first (after ++ value) =
      some { text := after ++ value
             rest := []
             groups := [(3, value.dropWhile (· = '.'))] } := by
  set read := value.dropWhile (· = '.') with hread
  have hsplit : after ++ value = (after ++ value.takeWhile (· = '.')) ++ read := by
    rw [List.append_assoc, hread, List.takeWhile_append_dropWhile]
  have hskipped : ∀ c ∈ after ++ value.takeWhile (· = '.'), isNotWord c = true := by
    intro c hc
    rcases List.mem_append.mp hc with hc | hc
    · exact isNotWord_of_whitespace (hafter c hc)
    · have hdot : c = '.' := by simpa using List.mem_takeWhile_imp hc
      rw [hdot]
      decide
  have hkept : ∀ c ∈ read, isWordOrDot c = true :=
    fun c hc => hvalue c (List.dropWhile_sublist _ |>.subset hc)
  -- the value that is read begins with a word character
  have hhead : ∀ c v, read = c :: v → isNotWord c = false := by
    intro c v hcons
    have hdot : c ≠ '.' := by
      have hnot := List.head?_dropWhile_not (fun c => decide (c = '.')) value
      rw [← hread, hcons] at hnot
      simpa using hnot
    have hword : isWordChar c = true := by
      simpa [isWordOrDot, hdot] using hkept c (hcons ▸ List.mem_cons_self)
    rw [isNotWord, hword]
    rfl
  have hlast := Regex.first_group_star 3 (u := []) hkept (by simp)
  rw [List.append_nil] at hlast
  rw [hsplit, Regex.first_star_seq hskipped hlast]
  intro c v w hcons hv
  exact absurd ((hv c List.mem_cons_self).symm.trans (hhead c (v ++ w) hcons)) (by decide)

/-- There is no second operator in a well-formed text. -/
theorem operatorGroup_first_after (c : ConstraintText) (hvalue : WordsAndDots c.value)
    {x : Char} {v w : List Char}
    (hcons : c.operator.text.toList ++ (c.after ++ c.value.toList) = x :: v ++ w) :
    operatorGroup.first w = none := by
  have hnone : '=' ∉ c.after ++ c.value.toList := by
    intro hmem
    rcases List.mem_append.mp hmem with hmem | hmem
    · exact absurd (c.after_blank _ hmem) (by decide)
    · exact absurd (hvalue _ hmem) (by decide)
  obtain ⟨o, ho, -⟩ := operator_text c.operator
  rw [ho] at hcons
  -- at most one equals sign is left, and an operator has one after its first character
  have hsuffix : w <:+ '=' :: (c.after ++ c.value.toList) := ⟨v, (List.cons.inj hcons).2.symm⟩
  refine operatorGroup_first_eq_none fun hmem => hnone ?_
  rcases List.suffix_cons_iff.mp hsuffix with rfl | hsuffix
  · exact hmem
  · exact hsuffix.subset (List.mem_of_mem_tail hmem)

/-- The key ends at a blank or at the operator. -/
theorem isWordOrDot_after_key (c : ConstraintText) {x : Char} {v w : List Char}
    (hcons : c.before ++ (c.operator.text.toList ++ (c.after ++ c.value.toList)) = x :: v ++ w) :
    isWordOrDot x = false := by
  cases hbefore : c.before with
  | nil =>
    obtain ⟨o, ho, hword⟩ := operator_text c.operator
    rw [hbefore, ho] at hcons
    rw [← (List.cons.inj hcons).1]
    exact hword
  | cons y blanks =>
    rw [hbefore] at hcons
    rw [← (List.cons.inj hcons).1]
    exact isWordOrDot_of_whitespace (c.before_blank y (hbefore ▸ List.mem_cons_self))

/-- **How a well-formed text is taken apart**: the key, the operator, and the value
without the dots in front. -/
theorem search_constraintEquals (c : ConstraintText) (hkey : WordsAndDots c.key.text)
    (hvalue : WordsAndDots c.value) :
    constraintEquals.search c.text.toList =
      some { text := c.text.toList
             rest := []
             groups := [(1, c.key.text.toList), (2, c.operator.text.toList),
               (3, (readValue c.value).toList)] } := by
  -- from the end of the expression to its beginning
  have hend := first_value c.after_blank hvalue
  have hoperator := Regex.first_seq_of_matchesAt
    (operatorGroup_first c.operator (c.after ++ c.value.toList)) hend
  have hblanks := Regex.first_star_seq
    (fun x hx => isNotWord_of_whitespace (c.before_blank x hx)) hoperator
    fun x v w hcons _ => Regex.first_seq_of_first_none (operatorGroup_first_after c hvalue hcons)
  have hfirst := Regex.first_group_star_seq 1 hkey hblanks fun x v w hcons hv =>
    absurd ((hv x List.mem_cons_self).symm.trans (isWordOrDot_after_key c hcons)) (by decide)
  rw [ConstraintText.text, String.toList_ofList, constraintEquals, Regex.search_of_first hfirst,
    readValue, String.toList_ofList]
  rfl

/-- What the expression reads from a constraint. -/
theorem findStringSubmatch_text (c : ConstraintText) (hkey : WordsAndDots c.key.text)
    (hvalue : WordsAndDots c.value) :
    constraintEquals.findStringSubmatch 3 c.text =
      [c.text, c.key.text, c.operator.text, readValue c.value] := by
  unfold Regex.findStringSubmatch
  rw [search_constraintEquals c hkey hvalue]
  simp [List.range_succ, List.lookup_cons]

/-! ## Recording the parts -/

theorem label_text_ne (l : String) :
    (NodeKey.label l).text ≠ swarmOs ∧ (NodeKey.label l).text ≠ swarmArch ∧
      (NodeKey.label l).text ≠ swarmHostname := by
  have hprefix : hasPrefix (NodeKey.label l).text swarmLabelPrefix = true :=
    hasPrefix_iff.mpr ⟨l, rfl⟩
  refine ⟨?_, ?_, ?_⟩ <;> intro heq <;> rw [heq] at hprefix <;> exact absurd hprefix (by decide)

/-- The branches of `addConstraint` are the keys. -/
theorem addConstraint_of_submatch {s whole operator value : String} {key : NodeKey}
    (h : constraintEquals.findStringSubmatch 3 s = [whole, key.text, operator, value])
    (constraints : Latest.Constraints) :
    addConstraint constraints s = key.record { operator, value } constraints := by
  unfold addConstraint
  rw [h]
  cases key with
  | os => rfl
  | arch => rfl
  | hostname => rfl
  | label l =>
    obtain ⟨hos, harch, hhostname⟩ := label_text_ne l
    have hprefix : hasPrefix (NodeKey.label l).text swarmLabelPrefix = true :=
      hasPrefix_iff.mpr ⟨l, rfl⟩
    have htrim : trimPrefix (NodeKey.label l).text swarmLabelPrefix = l := trimPrefix_append _ _
    simp only [hos, harch, hhostname, hprefix, htrim, if_true, if_false]
    rfl

/-- **What is recorded for a text** of word characters and dots. -/
theorem addConstraint_text (c : ConstraintText) (hkey : ∀ l, c.key = .label l → WordsAndDots l)
    (hvalue : WordsAndDots c.value) (constraints : Latest.Constraints) :
    addConstraint constraints c.text =
      c.key.record { operator := c.operator.text, value := readValue c.value } constraints :=
  addConstraint_of_submatch
    (findStringSubmatch_text c (NodeKey.wordsAndDots_text hkey) hvalue) constraints

/-- The groups for the key and for the value hold word characters and dots. -/
theorem wordsAndDots_of_submatch {s : String} :
    constraintEquals.findStringSubmatch 3 s = [] ∨
      ∃ whole key operator value,
        constraintEquals.findStringSubmatch 3 s = [whole, key, operator, value] ∧
          WordsAndDots key ∧ WordsAndDots value := by
  unfold Regex.findStringSubmatch
  cases hsearch : constraintEquals.search s.toList with
  | none => exact Or.inl rfl
  | some m =>
    -- the second group is the operator
    let P : Nat → List Char → Prop := fun index t =>
      index ≠ 2 → ∀ c ∈ t, isWordOrDot c = true
    have hcaptures : constraintEquals.Captures P := by
      refine ⟨?_, trivial, ⟨⟨trivial, trivial⟩, fun _ _ _ h => absurd rfl h⟩, trivial, ?_⟩
      · exact Regex.captures_star P 1 fun t ht _ => ht
      · exact Regex.captures_star P 3 fun t ht _ => ht
    obtain ⟨s', hm⟩ := Regex.exists_mem_of_search hsearch
    have hgroup : ∀ index, index ≠ 2 →
        WordsAndDots (String.ofList ((m.groups.lookup index).getD [])) := by
      intro index hindex
      rw [WordsAndDots, String.toList_ofList]
      cases hlookup : m.groups.lookup index with
      | none => simp
      | some t =>
        have hmem : (index, t) ∈ m.groups := by
          obtain ⟨l₁, l₂, heq, -⟩ := List.lookup_eq_some_iff.mp hlookup
          rw [heq]
          exact List.mem_append_right _ List.mem_cons_self
        exact Regex.captures_of_mem hcaptures hm (index, t) hmem hindex
    exact Or.inr ⟨_, _, _, _, rfl, hgroup 1 (by decide), hgroup 3 (by decide)⟩

/-- **Whatever the text**, what is recorded has a key and a value of word characters and
dots. -/
theorem addConstraint_cases (constraints : Latest.Constraints) (s : String) :
    addConstraint constraints s = constraints ∨
      ∃ (key : NodeKey) (constraint : Latest.Constraint),
        addConstraint constraints s = key.record constraint constraints ∧
          (∀ l, key = .label l → WordsAndDots l) ∧ WordsAndDots constraint.value := by
  -- what does not match the expression is ignored
  rcases wordsAndDots_of_submatch (s := s) with hnone | ⟨whole, key, operator, value, hsome, hk, hv⟩
  · left
    unfold addConstraint
    rw [hnone]
  · by_cases hknown : ∃ nodeKey : NodeKey, nodeKey.text = key
    · obtain ⟨nodeKey, rfl⟩ := hknown
      refine Or.inr ⟨nodeKey, { operator, value }, addConstraint_of_submatch hsome _, ?_, hv⟩
      rintro l rfl c hc
      refine hk c ?_
      rw [NodeKey.text, String.toList_append]
      exact List.mem_append_right _ hc
    · -- no branch of the `switch` is taken
      left
      have hne : ∀ nodeKey : NodeKey, key ≠ nodeKey.text := fun nodeKey heq =>
        hknown ⟨nodeKey, heq.symm⟩
      have hprefix : hasPrefix key swarmLabelPrefix = false := by
        rw [Bool.eq_false_iff]
        intro hprefix
        obtain ⟨l, rfl⟩ := hasPrefix_iff.mp hprefix
        exact hne (.label l) rfl
      have hos : key ≠ swarmOs := hne .os
      have harch : key ≠ swarmArch := hne .arch
      have hhostname : key ≠ swarmHostname := hne .hostname
      unfold addConstraint
      rw [hsome]
      simp [hos, harch, hhostname, hprefix]

namespace NodeKey

/-- To record a constraint under one key changes no other. -/
theorem find_record (key key' : NodeKey) (constraint : Latest.Constraint)
    (constraints : Latest.Constraints) :
    key'.find (key.record constraint constraints) =
      if key = key' then some constraint else key'.find constraints := by
  cases key <;> cases key'
  case label.label l l' =>
    show MapRef.get? (some (constraints.matchLabels.entries.insert l constraint)) l' = _
    rw [MapRef.get?_some]
    by_cases hl : l = l'
    · rw [if_pos (congrArg label hl), hl, Finmap.lookup_insert]
    · rw [if_neg fun h => hl (label.inj h), Finmap.lookup_insert_of_ne _ (Ne.symm hl),
        MapRef.lookup_entries]
      rfl
  all_goals rfl

theorem find_default (key : NodeKey) : key.find default = none := by cases key <;> rfl

/-- A record with one constraint says which one. -/
theorem record_inj {key key' : NodeKey} {constraint constraint' : Latest.Constraint}
    (h : key.record constraint default = key'.record constraint' default) :
    key = key' ∧ constraint = constraint' := by
  have hfind := congrArg key.find h
  rw [find_record, find_record, if_pos rfl] at hfind
  by_cases hkey : key' = key
  · rw [if_pos hkey] at hfind
    exact ⟨hkey.symm, Option.some.inj hfind⟩
  · rw [if_neg hkey, find_default] at hfind
    cases hfind

theorem record_ne_default (key : NodeKey) (constraint : Latest.Constraint) :
    key.record constraint default ≠ default := by
  intro h
  have hfind := congrArg key.find h
  rw [find_record, if_pos rfl, find_default] at hfind
  cases hfind

end NodeKey

/-! ## Which texts are recorded as they are -/

def qualifiedNameMaxLength : Nat := 63

def isAlphanumeric (c : Char) : Bool :=
  ('a' ≤ c && c ≤ 'z') || ('A' ≤ c && c ≤ 'Z') || ('0' ≤ c && c ≤ '9')

/-- The name part of a label key in Kubernetes, and a label value that is not empty. -/
def isQualifiedName (name : List Char) : Bool :=
  name.head?.any isAlphanumeric && name.getLast?.any isAlphanumeric &&
    (name.all fun c => isAlphanumeric c || c = '-' || c = '_' || c = '.') &&
    name.length ≤ qualifiedNameMaxLength

/-- A valid label key: a name, after an optional DNS subdomain and a slash. -/
def isLabelKey (key : String) : Bool :=
  match key.toList.splitOn '/' with
  | [name] => isQualifiedName name
  | [subdomain, name] =>
    isDNS1123Subdomain (String.ofList subdomain) = [] && isQualifiedName name
  | _ => false

/-- A valid label value. -/
def isLabelValue (value : String) : Bool := value = "" || isQualifiedName value.toList

/-- A DNS host name. -/
def isHostName (value : String) : Bool := isDNS1123Subdomain value = []

theorem readValue_eq_self {value : String} (h : value.toList.head? ≠ some '.') :
    readValue value = value := by
  have hdrop : value.toList.dropWhile (· = '.') = value.toList := by
    cases hvalue : value.toList with
    | nil => rfl
    | cons c rest =>
      rw [hvalue] at h
      have hc : c ≠ '.' := fun heq => h (congrArg some heq)
      simp [hc]
  rw [readValue, hdrop, String.ofList_toList]

/-- Valid values do not begin with a dot. -/
theorem head?_ne_dot {value : String}
    (h : isLabelValue value = true ∨ isHostName value = true) : value.toList.head? ≠ some '.' := by
  intro hhead
  rcases h with h | h
  · rcases Bool.or_eq_true_iff.mp h with hempty | hname
    · rw [of_decide_eq_true hempty] at hhead
      cases hhead
    · simp only [isQualifiedName, hhead, Bool.and_eq_true] at hname
      exact absurd hname.1.1.1 (by decide)
  · obtain ⟨rest, hrest⟩ := List.head?_eq_some_iff.mp hhead
    have hmatches : matchesDNS1123Subdomain value = true := by
      have hnil := of_decide_eq_true h
      rw [isDNS1123Subdomain, List.append_eq_nil_iff] at hnil
      simpa using hnil.2
    -- its first label would be empty
    have hsplit := splitOn_append_cons '.' [] rest
    rw [matchesDNS1123Subdomain, hrest] at hmatches
    rw [List.nil_append] at hsplit
    rw [hsplit, List.all_append, Bool.and_eq_true] at hmatches
    exact absurd hmatches.1 (by decide)

/-- **Which constraints are recorded as they are written.** For every constraint with a
supported key, any label key, and a value that is a label value or a host name: exactly
the operator and the whole value are recorded in the place of the key if and only if the
label key and the value have no characters but word characters and dots. -/
theorem fromComposeConstraints_exact_iff (c : ConstraintText)
    (hvalue : isLabelValue c.value = true ∨ isHostName c.value = true) :
    fromComposeConstraints [c.text] = some (c.key.record c.constraint default) ↔
      (∀ l, c.key = .label l → WordsAndDots l) ∧ WordsAndDots c.value := by
  rw [fromComposeConstraints_cons, List.foldl_cons, List.foldl_nil, Option.some.injEq]
  constructor
  · intro hrecorded
    rcases addConstraint_cases default c.text with hnone | ⟨key, constraint, hsome, hk, hv⟩
    · exact absurd (hrecorded.symm.trans hnone) (NodeKey.record_ne_default _ _)
    · -- what has been recorded is of these characters, and it is the constraint
      obtain ⟨rfl, rfl⟩ := NodeKey.record_inj (hsome.symm.trans hrecorded)
      exact ⟨hk, hv⟩
  · rintro ⟨hk, hv⟩
    rw [addConstraint_text c hk hv, readValue_eq_self (head?_ne_dot hvalue)]
    rfl

theorem forall_mem_space : ∀ c ∈ [' '], c.isWhitespace = true :=
  List.forall_mem_singleton.mpr rfl

/-- The constraint `node.labels.security == high`. -/
def securityHigh : ConstraintText where
  key := .label "security"
  before := [' ']
  operator := .equal
  after := [' ']
  value := "high"
  before_blank := forall_mem_space
  after_blank := forall_mem_space

theorem fromComposeConstraints_exact_securityHigh :
    securityHigh.text = "node.labels.security == high" ∧
      fromComposeConstraints [securityHigh.text] =
        some (securityHigh.key.record securityHigh.constraint default) := by
  refine ⟨by decide, ?_⟩
  refine (fromComposeConstraints_exact_iff securityHigh (Or.inl (by decide))).mpr ⟨?_, by decide⟩
  rintro l hl
  cases hl
  decide

/-- **A host name is cut off**: of `node.hostname != node-2` the value `node` is recorded,
and a label key with a hyphen is not recorded at all. -/
theorem fromComposeConstraints_cut :
    fromComposeConstraints ["node.hostname != node-2"] =
        some { (default : Latest.Constraints) with
          hostname := some { operator := "!=", value := "node" } } ∧
      isHostName "node-2" = true ∧
      fromComposeConstraints ["node.labels.disk-type == ssd"] = some default ∧
      isLabelKey "disk-type" = true := by
  decide

end ComposeKube
