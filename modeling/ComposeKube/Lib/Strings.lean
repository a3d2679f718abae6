import Mathlib.Algebra.Order.Ring.Int
import Mathlib.Data.List.TakeDrop
import Mathlib.Data.List.TakeWhile
import Mathlib.Data.String.Basic

/-!
# Go strings — the parts of `strings`, `path`, `path/filepath` and `strconv` in use

Each function is defined on the characters of its argument. Paths follow the
Unix rules (`/` is the separator, an absolute path begins with it).
-/

namespace Go

/-! ## Package strings -/

/-- `strings.HasPrefix`. -/
def hasPrefix (s p : String) : Bool := p.toList.isPrefixOf s.toList

/-- `strings.HasSuffix`. -/
def hasSuffix (s p : String) : Bool := p.toList.isSuffixOf s.toList

/-- `strings.TrimSuffix`. -/
def trimSuffix (s p : String) : String :=
  if hasSuffix s p then String.ofList (s.toList.take (s.toList.length - p.toList.length)) else s

/-- `strings.TrimPrefix`. -/
def trimPrefix (s p : String) : String :=
  if hasPrefix s p then String.ofList (s.toList.drop p.toList.length) else s

/-- `strings.SplitN(s, sep, 2)` for a separator of one character: the parts
before and after the first separator, `none` where there is no second part. -/
def cut (sep : Char) (s : String) : Option (String × String) :=
  match s.toList.span (· ≠ sep) with
  | (_, []) => none
  | (before, _ :: after) => some (String.ofList before, String.ofList after)

/-- `strings.ToLower` on the ASCII letters. -/
def asciiLower (s : String) : String := String.ofList (s.toList.map Char.toLower)

/-- A prefix is what the text starts with. -/
theorem hasPrefix_iff {s p : String} : hasPrefix s p = true ↔ ∃ t : String, s = p ++ t := by
  rw [hasPrefix, List.isPrefixOf_iff_prefix]
  constructor
  · rintro ⟨t, ht⟩
    refine ⟨String.ofList t, ?_⟩
    rw [← String.toList_inj, String.toList_append, String.toList_ofList, ht]
  · rintro ⟨t, rfl⟩
    rw [String.toList_append]
    exact List.prefix_append _ _

/-- No string is a prefix of itself followed by something. -/
theorem hasPrefix_append_self {s p : String} (hp : p ≠ "") : hasPrefix s (s ++ p) = false := by
  rw [Bool.eq_false_iff, ne_eq, hasPrefix_iff]
  rintro ⟨t, ht⟩
  have hlen := congrArg (fun s : String => s.toList.length) ht
  simp only [String.toList_append, List.length_append] at hlen
  have : p.toList = [] := List.eq_nil_of_length_eq_zero (by omega)
  exact hp (String.toList_inj.mp (by simpa using this))

/-- A prefix is taken off. -/
theorem trimPrefix_append (p s : String) : trimPrefix (p ++ s) p = s := by
  rw [trimPrefix, if_pos (hasPrefix_iff.mpr ⟨s, rfl⟩), String.toList_append, List.drop_left,
    String.ofList_toList]

/-- A suffix is taken off. -/
theorem trimSuffix_append (s p : List Char) :
    trimSuffix (String.ofList (s ++ p)) (String.ofList p) = String.ofList s := by
  have hsuffix : hasSuffix (String.ofList (s ++ p)) (String.ofList p) = true := by
    rw [hasSuffix, String.toList_ofList, String.toList_ofList, List.isSuffixOf_iff_suffix]
    exact List.suffix_append s p
  rw [trimSuffix, if_pos hsuffix, String.toList_ofList, String.toList_ofList, List.length_append,
    Nat.add_sub_cancel, List.take_left]

/-- Appending one suffix is injective. -/
theorem append_right_injective {s t p : String} (h : s ++ p = t ++ p) : s = t := by
  have hl := congrArg String.toList h
  rw [String.toList_append, String.toList_append] at hl
  exact String.toList_inj.mp (List.append_cancel_right hl)

/-- Two suffixes of different last characters never make one string. -/
theorem append_ne_of_getLast {s t p q : String}
    (hp : p.toList.getLast? ≠ none) (hq : q.toList.getLast? ≠ none)
    (h : p.toList.getLast? ≠ q.toList.getLast?) : s ++ p ≠ t ++ q := by
  intro heq
  -- equal texts would end in the same character
  have hl := congrArg (fun s : String => s.toList.getLast?) heq
  simp only [String.toList_append, List.getLast?_append] at hl
  cases hpl : p.toList.getLast? with
  | none => exact hp hpl
  | some a =>
    cases hql : q.toList.getLast? with
    | none => exact hq hql
    | some b =>
      rw [hpl, hql] at hl
      rw [hpl, hql] at h
      exact h (by simpa using hl)

/-! ## Splitting -/

/-- A separator splits the text in two. -/
theorem splitOn_append_cons {α : Type} [DecidableEq α] (a : α) (xs ys : List α) :
    (xs ++ a :: ys).splitOn a = xs.splitOn a ++ ys.splitOn a := by
  rw [List.splitOn_eq_splitOnP]
  exact List.splitOnP_append_cons (p := fun x => x == a) xs ys (beq_self_eq_true a)

theorem forall_ne_of_notMem {α : Type} [DecidableEq α] {a : α} {l : List α} (h : a ∉ l) :
    ∀ b ∈ l, decide (b ≠ a) = true :=
  fun _ hb => decide_eq_true (ne_of_mem_of_not_mem hb h)

/-- A list is cut at the first occurrence of an element. -/
theorem span_append_cons {α : Type} [DecidableEq α] {a : α} {xs : List α} (h : a ∉ xs)
    (ys : List α) : (xs ++ a :: ys).span (· ≠ a) = (xs, a :: ys) := by
  have hall := forall_ne_of_notMem h
  rw [List.span_eq_takeWhile_dropWhile, List.takeWhile_append_of_pos hall,
    List.dropWhile_append_of_pos hall]
  simp

/-- Without the separator everything is before it. -/
theorem span_of_notMem {α : Type} [DecidableEq α] {a : α} {l : List α} (h : a ∉ l) :
    l.span (· ≠ a) = (l, []) := by
  have hall := forall_ne_of_notMem h
  rw [List.span_eq_takeWhile_dropWhile, List.dropWhile_eq_nil_iff.mpr hall]
  exact congrArg (·, []) (List.takeWhile_eq_self_iff.mpr hall)

/-- A text without the separator is not cut. -/
theorem cut_of_notMem {sep : Char} {s : String} (h : sep ∉ s.toList) : cut sep s = none := by
  unfold cut
  rw [span_of_notMem h]

/-- The cut is at the first separator. -/
theorem cut_append {sep : Char} {before : String} (h : sep ∉ before.toList) (after : String) :
    cut sep (before ++ String.singleton sep ++ after) = some (before, after) := by
  have htext : (before ++ String.singleton sep ++ after).toList =
      before.toList ++ sep :: after.toList := by
    simp
  unfold cut
  rw [htext, span_append_cons h]
  simp

/-- A string with a separator is cut into what is before and after the first one. -/
theorem exists_cut_of_mem {sep : Char} {s : String} (h : sep ∈ s.toList) :
    ∃ before after, s = before ++ String.singleton sep ++ after ∧ sep ∉ before.toList := by
  obtain ⟨xs, ys, hs, hxs⟩ := List.eq_append_cons_of_mem h
  refine ⟨String.ofList xs, String.ofList ys, ?_, by rwa [String.toList_ofList]⟩
  rw [← String.toList_inj, hs]
  simp

/-- The last occurrence of an element. -/
theorem exists_last_of_mem {α : Type} {a : α} {l : List α} (h : a ∈ l) :
    ∃ before after, l = before ++ a :: after ∧ a ∉ after := by
  obtain ⟨xs, ys, hrev, hxs⟩ := List.eq_append_cons_of_mem (List.mem_reverse.mpr h)
  refine ⟨ys.reverse, xs.reverse, ?_, fun hmem => hxs (List.mem_reverse.mp hmem)⟩
  rw [← List.reverse_inj, hrev]
  simp

/-! ## Package strconv: quoting -/

/-- One character of a quoted string: Go's escapes for the ASCII range. Above it Go also
escapes what is not printable; here it stays as it is. -/
def quoteChar (c : Char) : List Char :=
  if c = '\"' then ['\\', '\"']
  else if c = '\\' then ['\\', '\\']
  else if c = '\x07' then ['\\', 'a']
  else if c = '\x08' then ['\\', 'b']
  else if c = '\x0c' then ['\\', 'f']
  else if c = '\n' then ['\\', 'n']
  else if c = '\r' then ['\\', 'r']
  else if c = '\t' then ['\\', 't']
  else if c = '\x0b' then ['\\', 'v']
  else if c.toNat < 32 ∨ c.toNat = 127 then
    ['\\', 'x', Nat.digitChar (c.toNat / 16), Nat.digitChar (c.toNat % 16)]
  else [c]

/-- `strconv.Quote`, the `%q` of package fmt. -/
def quote (s : String) : String :=
  String.ofList ('\"' :: s.toList.flatMap quoteChar ++ ['\"'])

/-! ## Packages path and path/filepath -/

/-- The segments between the slashes of a path. -/
def segments (p : List Char) : List (List Char) := p.splitOn '/'

/-- One step of `path.Clean` over the segments kept so far (in reverse):
empty segments and `.` vanish, `..` drops the segment before it. -/
def cleanStep (rooted : Bool) (kept : List (List Char)) (seg : List Char) : List (List Char) :=
  if seg = [] ∨ seg = ['.'] then kept
  else if seg = ['.', '.'] then
    match kept with
    | [] => if rooted then [] else [seg]
    | top :: rest => if top = ['.', '.'] then seg :: kept else rest
  else seg :: kept

/-- `path.Clean`. -/
def pathClean (p : String) : String :=
  let rooted := hasPrefix p "/"
  let kept := (segments p.toList).foldl (cleanStep rooted) []
  let body := ['/'].intercalate kept.reverse
  if rooted then String.ofList ('/' :: body)
  else if body = [] then "." else String.ofList body

/-- `path.Join(dir, elem)`: empty elements are ignored. -/
def pathJoin (dir elem : String) : String :=
  if dir = "" then (if elem = "" then "" else pathClean elem)
  else if elem = "" then pathClean dir
  else pathClean (dir ++ "/" ++ elem)

/-- `path.Base`: the last segment, trailing slashes removed. -/
def pathBase (p : String) : String :=
  if p = "" then "."
  else
    let trimmed := p.toList.reverse.dropWhile (· = '/')
    if trimmed = [] then "/" else String.ofList (trimmed.takeWhile (· ≠ '/')).reverse

/-- `filepath.IsAbs`. -/
def isAbs (p : String) : Bool := hasPrefix p "/"

/-- `filepath.Split`: everything up to the last separator, and the rest. -/
def pathSplit (p : String) : String × String :=
  let rev := p.toList.reverse
  (String.ofList (rev.dropWhile (· ≠ '/')).reverse, String.ofList (rev.takeWhile (· ≠ '/')).reverse)

/-- The names on a path: its segments, the empty ones left out. -/
def pathNames (p : String) : List (List Char) := (segments p.toList).filter (· ≠ [])

/-- **A slash only separates.** -/
theorem pathNames_append_slash (p q : List Char) :
    pathNames (String.ofList (p ++ '/' :: q)) =
      pathNames (String.ofList p) ++ pathNames (String.ofList q) := by
  unfold pathNames segments
  rw [String.toList_ofList, String.toList_ofList, String.toList_ofList, splitOn_append_cons,
    List.filter_append]

/-- Where a path with a slash is split: before and after the last slash. -/
theorem pathSplit_eq {p : String} (h : '/' ∈ p.toList) :
    ∃ dir file, p = String.ofList (dir ++ '/' :: file) ∧ '/' ∉ file ∧
      pathSplit p = (String.ofList (dir ++ ['/']), String.ofList file) := by
  obtain ⟨dir, file, hp, hfile⟩ := exists_last_of_mem h
  -- the last slash is the first one from the end
  have hrev : p.toList.reverse = file.reverse ++ '/' :: dir.reverse := by
    rw [hp]
    simp
  have hne := forall_ne_of_notMem (mt List.mem_reverse.mp hfile)
  have hdrop : p.toList.reverse.dropWhile (· ≠ '/') = '/' :: dir.reverse := by
    rw [hrev, List.dropWhile_append_of_pos hne]
    rfl
  have htake : p.toList.reverse.takeWhile (· ≠ '/') = file.reverse := by
    rw [hrev, List.takeWhile_append_of_pos hne]
    exact List.append_nil _
  refine ⟨dir, file, ?_, hfile, ?_⟩
  · rw [← String.toList_inj, String.toList_ofList, hp]
  · unfold pathSplit
    dsimp only
    rw [hdrop, htake, List.reverse_cons, List.reverse_reverse, List.reverse_reverse]

/-! ## Package strconv -/

/-- The value of a list of decimal digits. -/
def digitsValue (ds : List Char) : Nat := ds.foldl (fun n d => 10 * n + (d.toNat - '0'.toNat)) 0

/-- `strconv.ParseInt(s, 10, 64)`; `none` is the error. -/
def parseInt64 (s : String) : Option Int64 :=
  let (negative, ds) := match s.toList with
    | '-' :: ds => (true, ds)
    | '+' :: ds => (false, ds)
    | ds => (false, ds)
  if ds = [] ∨ ds.any (fun d => !d.isDigit) then none
  else
    let n : Int := if negative then -(digitsValue ds : Int) else digitsValue ds
    if -2 ^ 63 ≤ n ∧ n < 2 ^ 63 then some (Int64.ofInt n) else none

/-- `strconv.FormatInt(i, 10)`, and the `%d` of package fmt. -/
def formatInt (i : Int) : String := toString i

/-- Digits that were printed are read as the number. -/
theorem digitsValue_toDigits (n : Nat) : digitsValue (Nat.toDigits 10 n) = n := by
  rw [digitsValue, ← Nat.ofDigitChars_eq_foldl, Nat.ofDigitChars_ten_toDigits]

/-- A number that is not negative is written without a sign. -/
theorem toList_formatInt (n : Nat) : (formatInt (n : Int)).toList = Nat.toDigits 10 n :=
  Nat.toList_repr

/-- Decimal digits, at least one. -/
def IsDigits (ds : List Char) : Prop := ds ≠ [] ∧ ∀ d ∈ ds, d.isDigit = true

/-- The integers in decimal notation, with an optional sign. -/
inductive SignedDecimal : List Char → Int → Prop
  | unsigned {ds : List Char} (h : IsDigits ds) : SignedDecimal ds (digitsValue ds)
  | plus {ds : List Char} (h : IsDigits ds) : SignedDecimal ('+' :: ds) (digitsValue ds)
  | minus {ds : List Char} (h : IsDigits ds) : SignedDecimal ('-' :: ds) (-(digitsValue ds : Int))

/-- The part of `parseInt64` after the sign. -/
def parseDigits (negative : Bool) (ds : List Char) : Option Int64 :=
  if ds = [] ∨ ds.any (fun d => !d.isDigit) then none
  else
    let n : Int := if negative then -(digitsValue ds : Int) else digitsValue ds
    if -2 ^ 63 ≤ n ∧ n < 2 ^ 63 then some (Int64.ofInt n) else none

/-- Whether the characters begin with a minus, and what is left without a sign. -/
def splitSign : List Char → Bool × List Char
  | '-' :: ds => (true, ds)
  | '+' :: ds => (false, ds)
  | ds => (false, ds)

/-- The sign first, then the digits. -/
theorem parseInt64_eq (s : String) :
    parseInt64 s = parseDigits (splitSign s.toList).1 (splitSign s.toList).2 :=
  rfl

/-- The test that the parser makes. -/
theorem isDigits_iff {ds : List Char} :
    IsDigits ds ↔ ¬(ds = [] ∨ ds.any (fun d => !d.isDigit) = true) := by
  simp [IsDigits]

/-- **Digits are accepted when the number fits.** -/
theorem parseDigits_eq_some_iff {negative : Bool} {ds : List Char} {i : Int64} :
    parseDigits negative ds = some i ↔
      IsDigits ds ∧ i.toInt = if negative then -(digitsValue ds : Int) else digitsValue ds := by
  unfold parseDigits
  dsimp only
  by_cases hds : IsDigits ds
  · rw [if_neg (isDigits_iff.mp hds)]
    -- the sign does not matter for the range
    generalize (if negative = true then -(digitsValue ds : Int) else digitsValue ds) = n
    have hlow := i.le_toInt
    have hhigh := i.toInt_lt
    constructor
    · intro h
      obtain ⟨hrange, hi⟩ := Option.ite_none_right_eq_some.mp h
      obtain rfl := Option.some.inj hi
      exact ⟨hds, Int64.toInt_ofInt_of_le hrange.1 hrange.2⟩
    · rintro ⟨-, rfl⟩
      rw [if_pos ⟨hlow, hhigh⟩, Int64.ofInt_toInt]
  · rw [if_pos (not_not.mp (mt isDigits_iff.mpr hds))]
    simp [hds]

/-- A sign is not a digit. -/
theorem not_isDigits_cons {c : Char} (hc : c.isDigit = false) (ds : List Char) :
    ¬IsDigits (c :: ds) := by
  intro h
  rw [h.2 c (List.mem_cons_self ..)] at hc
  cases hc

/-- The grammar of numbers, by what the parser splits off. -/
theorem signedDecimal_iff {l : List Char} {n : Int} :
    SignedDecimal l n ↔ IsDigits (splitSign l).2 ∧
      n = if (splitSign l).1 then -(digitsValue (splitSign l).2 : Int)
        else digitsValue (splitSign l).2 := by
  constructor
  · intro h
    cases h with
    | plus h => exact ⟨h, rfl⟩
    | minus h => exact ⟨h, rfl⟩
    | unsigned h =>
      -- digits do not start with a sign
      have hsplit : splitSign l = (false, l) := by
        unfold splitSign
        split
        · exact absurd h (not_isDigits_cons rfl _)
        · exact absurd h (not_isDigits_cons rfl _)
        · rfl
      rw [hsplit]
      exact ⟨h, rfl⟩
  · rintro ⟨h, rfl⟩
    unfold splitSign at h ⊢
    split at h
    · exact .minus h
    · exact .plus h
    · exact .unsigned h

/-- **What `parseInt64` accepts**: the signed decimals in the range of 64 bits. -/
theorem parseInt64_eq_some_iff {s : String} {i : Int64} :
    parseInt64 s = some i ↔ SignedDecimal s.toList i.toInt := by
  rw [parseInt64_eq, parseDigits_eq_some_iff, signedDecimal_iff]

/-- A number is printed in digits. -/
theorem isDigits_toDigits (n : Nat) : IsDigits (Nat.toDigits 10 n) :=
  ⟨Nat.toDigits_ne_nil, fun _ hc => Nat.isDigit_of_mem_toDigits (by decide) (by decide) hc⟩

/-- The digits of a number are a number to `parseInt64`, signed or not. -/
theorem parseInt64_of_digits {s : String} {n : Nat} {i : Int64}
    (h : (s.toList = Nat.toDigits 10 n ∧ (n : Int) = i.toInt) ∨
      (s.toList = '-' :: Nat.toDigits 10 n ∧ -(n : Int) = i.toInt)) : parseInt64 s = some i := by
  rw [parseInt64_eq_some_iff]
  rcases h with ⟨hs, hn⟩ | ⟨hs, hn⟩
  · have hdecimal := SignedDecimal.unsigned (isDigits_toDigits n)
    rw [digitsValue_toDigits] at hdecimal
    rw [hs, ← hn]
    exact hdecimal
  · have hdecimal := SignedDecimal.minus (isDigits_toDigits n)
    rw [digitsValue_toDigits] at hdecimal
    rw [hs, ← hn]
    exact hdecimal

/-- **What is formatted is parsed back.** -/
theorem parseInt64_formatInt (i : Int64) : parseInt64 (formatInt i.toInt) = some i := by
  rw [formatInt, Int.toString_eq_repr]
  -- negative numbers are printed with their sign
  cases hi : i.toInt with
  | ofNat n =>
    refine parseInt64_of_digits (n := n) (.inl ⟨?_, hi.symm⟩)
    rw [Int.repr, Nat.repr, String.toList_ofList]
  | negSucc n =>
    refine parseInt64_of_digits (n := n + 1) (.inr ⟨?_, ?_⟩)
    · rw [Int.repr, Nat.repr, String.toList_append]
      exact congrArg (['-'] ++ ·) String.toList_ofList
    · rw [hi]
      rfl

end Go
