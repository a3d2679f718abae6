import Mathlib.Data.List.Basic

/-!
# Package regexp — leftmost-first matching

Regular expressions with literal texts, greedy repetitions of character classes,
sequences, alternatives and numbered groups. An expression has the matches at a
position in the order of preference: a repetition prefers to be long, an alternative
prefers its left side, and a sequence tries everything after one match of its first
part before it goes on to the next. The match at a position is the most preferred one,
and a search returns the match at the leftmost position that has one.

* `first_star_seq` — the rule for a repetition in a sequence: the longest one after
  which the rest matches.
* `captures_of_mem` — what holds of the text of every group.
-/

namespace Go

/-- Regular expressions. -/
inductive Regex where
  | lit (text : List Char)
  | star (p : Char → Bool)
  | seq (r s : Regex)
  | alt (r s : Regex)
  | group (index : Nat) (r : Regex)

/-- A match at a position: its text, what comes after it, and the texts of its groups. -/
structure RegexMatch where
  text : List Char
  rest : List Char
  groups : List (Nat × List Char)

/-- The match that continues `m` after its text. -/
def RegexMatch.append (m m' : RegexMatch) : RegexMatch :=
  { text := m.text ++ m'.text, rest := m'.rest, groups := m.groups ++ m'.groups }

/-- The ways to divide a text after characters of a class, the longest first. -/
def starSplits (p : Char → Bool) : List Char → List (List Char × List Char)
  | [] => [([], [])]
  | c :: s =>
    if p c then (starSplits p s).map (fun e => (c :: e.1, e.2)) ++ [([], c :: s)]
    else [([], c :: s)]

namespace Regex

/-- The matches at the beginning of a text, in the order of preference. -/
def matchesAt : Regex → List Char → List RegexMatch
  | lit text, s =>
    if text.isPrefixOf s then [{ text, rest := s.drop text.length, groups := [] }] else []
  -- repetitions are greedy
  | star p, s => (starSplits p s).map fun e => { text := e.1, rest := e.2, groups := [] }
  -- the second part is tried after each match of the first, which is backtracking
  | seq r r', s => (r.matchesAt s).flatMap fun m => (r'.matchesAt m.rest).map m.append
  | alt r r', s => r.matchesAt s ++ r'.matchesAt s
  | group index r, s =>
    (r.matchesAt s).map fun m => { m with groups := (index, m.text) :: m.groups }

/-- The most preferred match at the beginning of a text. -/
def first (r : Regex) (s : List Char) : Option RegexMatch := (r.matchesAt s).head?

/-- The leftmost match. -/
def search (r : Regex) : List Char → Option RegexMatch
  | [] => r.first []
  | c :: s => (r.first (c :: s)).or (r.search s)

/-- `FindStringSubmatch` of an expression with the given number of groups: the text of
the match and of each group, or nothing. A group without a text reads as empty. -/
def findStringSubmatch (r : Regex) (numSubexp : Nat) (s : String) : List String :=
  match r.search s.toList with
  | none => []
  | some m => String.ofList m.text :: (List.range numSubexp).map fun i =>
      String.ofList ((m.groups.lookup (i + 1)).getD [])

/-! ## Divisions -/

/-- What a star can match. -/
theorem mem_starSplits {p : Char → Bool} {s t u : List Char} :
    (t, u) ∈ starSplits p s ↔ s = t ++ u ∧ ∀ c ∈ t, p c = true := by
  induction s generalizing t with
  | nil =>
    simp only [starSplits, List.mem_singleton, Prod.mk.injEq, eq_comm, List.append_eq_nil_iff]
    constructor
    · rintro ⟨rfl, rfl⟩
      simp
    · exact fun h => h.1
  | cons c s ih =>
    -- the empty division is always there, the others begin with `c`
    have hempty : (t, u) = ([], c :: s) → c :: s = t ++ u ∧ ∀ b ∈ t, p b = true := by
      rintro ⟨rfl, rfl⟩
      simp
    have hcons : ∀ t', t = c :: t' → (c :: s = t ++ u ∧ (∀ b ∈ t, p b = true) ↔
        p c = true ∧ (t', u) ∈ starSplits p s) := by
      rintro t' rfl
      rw [ih, List.cons_append, List.cons.injEq, List.forall_mem_cons]
      simp only [true_and]
      exact and_left_comm
    rw [starSplits]
    by_cases hc : p c = true
    · rw [if_pos hc, List.mem_append, List.mem_map, List.mem_singleton]
      constructor
      · rintro (⟨e, he, heq⟩ | heq)
        · obtain ⟨rfl, rfl⟩ := Prod.mk.inj heq
          exact (hcons e.1 rfl).mpr ⟨hc, he⟩
        · exact hempty heq
      · intro h
        cases t with
        | nil => exact Or.inr (Prod.ext rfl h.1.symm)
        | cons b t' =>
          obtain rfl : c = b := (List.cons.inj h.1).1
          exact Or.inl ⟨(t', u), ((hcons t' rfl).mp h).2, rfl⟩
    · rw [if_neg hc, List.mem_singleton]
      constructor
      · exact hempty
      · intro h
        cases t with
        | nil => exact Prod.ext rfl h.1.symm
        | cons b t' =>
          obtain rfl : c = b := (List.cons.inj h.1).1
          exact absurd ((hcons t' rfl).mp h).1 hc

/-- **Backtracking**: the first division that is accepted is `(t, u)` when it is accepted
and no longer one is. By induction on `t`, over which all longer divisions agree. -/
theorem findSome?_starSplits {β : Type} {p : Char → Bool} {f : List Char × List Char → Option β}
    {t u : List Char} {b : β} (ht : ∀ c ∈ t, p c = true) (hf : f (t, u) = some b)
    (hlonger : ∀ c v w, u = c :: v ++ w → (∀ a ∈ c :: v, p a = true) →
      f (t ++ c :: v, w) = none) :
    (starSplits p (t ++ u)).findSome? f = some b := by
  induction t generalizing f with
  | nil =>
    cases u with
    | nil => simpa [starSplits] using hf
    | cons c u =>
      rw [List.nil_append, starSplits]
      split
      case isFalse => simpa using hf
      case isTrue hc =>
        -- the divisions that take `c` are longer, and none of them is accepted
        have hnone : ((starSplits p u).map fun e => (c :: e.1, e.2)).findSome? f = none := by
          rw [List.findSome?_eq_none_iff, List.forall_mem_map]
          rintro ⟨v, w⟩ hmem
          obtain ⟨rfl, hv⟩ := mem_starSplits.mp hmem
          exact hlonger c v w rfl (List.forall_mem_cons.mpr ⟨hc, hv⟩)
        rw [List.findSome?_append, hnone]
        simpa using hf
  | cons a t ih =>
    obtain ⟨ha, ht⟩ := List.forall_mem_cons.mp ht
    -- every division that matters takes `a`, so it can be moved into `f`
    have hrest := ih (f := fun e => f (a :: e.1, e.2)) ht hf
      fun c v w hu hv => hlonger c v w hu hv
    rw [List.cons_append, starSplits, if_pos ha, List.findSome?_append, List.findSome?_map]
    exact (congrArg (Option.or · _) hrest).trans rfl

/-! ## The match at a position -/

/-- The first way in which two parts match. -/
theorem first_seq (r r' : Regex) (s : List Char) :
    (seq r r').first s = (r.matchesAt s).findSome? fun m => (r'.first m.rest).map m.append := by
  rw [first, matchesAt, List.head?_flatMap]
  simp only [List.head?_map]
  rfl

/-- **A repetition in a sequence**: it is `t` when the rest matches after `t`, and after no
longer text of the class. -/
theorem first_star_seq {p : Char → Bool} {r : Regex} {t u : List Char} {m : RegexMatch}
    (ht : ∀ c ∈ t, p c = true) (hm : r.first u = some m)
    (hlonger : ∀ c v w, u = c :: v ++ w → (∀ a ∈ c :: v, p a = true) → r.first w = none) :
    (seq (star p) r).first (t ++ u) =
      some { text := t ++ m.text, rest := m.rest, groups := m.groups } := by
  rw [first_seq, matchesAt, List.findSome?_map]
  refine findSome?_starSplits ht ?_ fun c v w hu hv => ?_
  · simp [hm, RegexMatch.append]
  · simp [hlonger c v w hu hv]

/-- The same for a repetition that is a group. -/
theorem first_group_star_seq {p : Char → Bool} (index : Nat) {r : Regex} {t u : List Char}
    {m : RegexMatch} (ht : ∀ c ∈ t, p c = true) (hm : r.first u = some m)
    (hlonger : ∀ c v w, u = c :: v ++ w → (∀ a ∈ c :: v, p a = true) → r.first w = none) :
    (seq (group index (star p)) r).first (t ++ u) =
      some { text := t ++ m.text, rest := m.rest, groups := (index, t) :: m.groups } := by
  rw [first_seq, matchesAt, matchesAt, List.map_map, List.findSome?_map]
  refine findSome?_starSplits ht ?_ fun c v w hu hv => ?_
  · simp [hm, RegexMatch.append]
  · simp [hlonger c v w hu hv]

/-- A repetition at the end takes all it can get. -/
theorem first_group_star {p : Char → Bool} (index : Nat) {t u : List Char}
    (ht : ∀ c ∈ t, p c = true) (hu : ∀ c ∈ u.head?, p c = false) :
    (group index (star p)).first (t ++ u) =
      some { text := t, rest := u, groups := [(index, t)] } := by
  -- the longest way is tried first, and it stops where the characters end
  have hfind : (starSplits p (t ++ u)).findSome? some = some (t, u) := by
    refine findSome?_starSplits ht rfl fun c v w heq hv => ?_
    rw [heq] at hu
    exact absurd ((hv c List.mem_cons_self).symm.trans (hu c rfl)) (by decide)
  have hsplit : (starSplits p (t ++ u)).head? = some (t, u) := by
    rw [← hfind]
    cases starSplits p (t ++ u) <;> rfl
  rw [first, matchesAt, matchesAt, List.map_map, List.head?_map, hsplit]
  rfl

/-- A text matches itself. -/
theorem first_lit (text u : List Char) :
    (lit text).first (text ++ u) = some { text, rest := u, groups := [] } := by
  have hprefix : text.isPrefixOf (text ++ u) = true :=
    List.isPrefixOf_iff_prefix.mpr (List.prefix_append _ _)
  rw [first, matchesAt, if_pos hprefix, List.drop_left]
  rfl

theorem first_lit_eq_none {text s : List Char} (h : ¬text <+: s) : (lit text).first s = none := by
  rw [first, matchesAt, if_neg (by rwa [List.isPrefixOf_iff_prefix])]
  rfl

/-- The first alternative is preferred. -/
theorem first_alt (r r' : Regex) (s : List Char) :
    (alt r r').first s = (r.first s).or (r'.first s) := by
  rw [first, matchesAt, List.head?_append]
  rfl

/-- A group adds what was matched to the captures. -/
theorem first_group (index : Nat) (r : Regex) (s : List Char) :
    (group index r).first s =
      (r.first s).map fun m => { m with groups := (index, m.text) :: m.groups } := by
  rw [first, matchesAt, List.head?_map]
  rfl

/-- No match for the first part is none for both. -/
theorem first_seq_of_first_none {r r' : Regex} {s : List Char} (h : r.first s = none) :
    (seq r r').first s = none := by
  rw [first_seq, List.head?_eq_none_iff.mp h]
  rfl

theorem first_seq_of_matchesAt {r r' : Regex} {s : List Char} {m m' : RegexMatch}
    (h : r.first s = some m) (h' : r'.first m.rest = some m') :
    (seq r r').first s = some (m.append m') := by
  obtain ⟨ms, hms⟩ : ∃ ms, r.matchesAt s = m :: ms := List.head?_eq_some_iff.mp h
  rw [first_seq, hms, List.findSome?_cons, h']
  rfl

/-- A match at the first position is what a search returns. -/
theorem search_of_first {r : Regex} {s : List Char} {m : RegexMatch} (h : r.first s = some m) :
    r.search s = some m := by
  cases s with
  | nil => exact h
  | cons c s => rw [search, h, Option.some_or]

/-! ## Groups -/

/-- Every group of the expression has texts of which `P` holds. -/
def Captures (P : Nat → List Char → Prop) : Regex → Prop
  | lit _ => True
  | star _ => True
  | seq r r' => r.Captures P ∧ r'.Captures P
  | alt r r' => r.Captures P ∧ r'.Captures P
  | group index r => r.Captures P ∧ ∀ s, ∀ m ∈ r.matchesAt s, P index m.text

/-- **The texts of groups**, in every match at every position. -/
theorem captures_of_mem {P : Nat → List Char → Prop} {r : Regex} (h : r.Captures P)
    {s : List Char} {m : RegexMatch} (hm : m ∈ r.matchesAt s) : ∀ g ∈ m.groups, P g.1 g.2 := by
  induction r generalizing s m with
  | lit text =>
    rw [matchesAt] at hm
    split at hm
    · rw [List.mem_singleton.mp hm]
      simp
    · cases hm
  | star p =>
    obtain ⟨e, -, rfl⟩ := List.mem_map.mp hm
    simp
  | seq r r' ihr ihr' =>
    obtain ⟨m₁, hm₁, hm⟩ := List.mem_flatMap.mp hm
    obtain ⟨m₂, hm₂, rfl⟩ := List.mem_map.mp hm
    exact List.forall_mem_append.mpr ⟨ihr h.1 hm₁, ihr' h.2 hm₂⟩
  | alt r r' ihr ihr' =>
    rcases List.mem_append.mp hm with hm | hm
    · exact ihr h.1 hm
    · exact ihr' h.2 hm
  -- the only case that captures by itself
  | group index r ih =>
    obtain ⟨m', hm', rfl⟩ := List.mem_map.mp hm
    exact List.forall_mem_cons.mpr ⟨h.2 s m' hm', ih h.1 hm'⟩

/-- The text of a repetition is of its class. -/
theorem captures_star (P : Nat → List Char → Prop) (index : Nat) {p : Char → Bool}
    (h : ∀ t, (∀ c ∈ t, p c = true) → P index t) : (group index (star p)).Captures P := by
  refine ⟨trivial, fun s m hm => ?_⟩
  obtain ⟨e, he, rfl⟩ := List.mem_map.mp hm
  exact h _ (mem_starSplits.mp he).2

/-- A match that was searched for starts somewhere. -/
theorem exists_mem_of_search {r : Regex} {s : List Char} {m : RegexMatch}
    (h : r.search s = some m) : ∃ s', m ∈ r.matchesAt s' := by
  induction s with
  | nil => exact ⟨[], List.mem_of_head? h⟩
  | cons c s ih =>
    rw [search, Option.or_eq_some_iff] at h
    rcases h with h | ⟨-, h⟩
    · exact ⟨_, List.mem_of_head? h⟩
    · exact ih h

end Regex

end Go
