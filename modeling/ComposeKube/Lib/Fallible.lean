import Mathlib.Data.List.Forall2
import Mathlib.Data.List.Perm.Basic

/-!
# Fallible code

Functions that return a value or an error are `Except` computations. The
lemmas take successful runs apart (`bind_eq_ok`) and describe a loop that stops
at the first error by its successful runs (`mapM_eq_ok_iff`). Code that goes on
after an error collects its errors in a list (`foldl_eq_nil_iff`).
-/

namespace Go

variable {ε β : Type} {α : Type*}

/-- A sequence succeeds when its first part does and its second part does on
the first part's value. -/
theorem bind_eq_ok {α : Type} {x : Except ε α} {f : α → Except ε β} {b : β} :
    (x >>= f) = .ok b ↔ ∃ a, x = .ok a ∧ f a = .ok b := by
  cases x with
  | error e => simp [bind, Except.bind]
  | ok a => simp [bind, Except.bind]

@[simp] theorem ok_bind {α : Type} (a : α) (f : α → Except ε β) : (Except.ok a >>= f) = f a := rfl

@[simp] theorem error_bind {α : Type} (e : ε) (f : α → Except ε β) :
    (Except.error e >>= f) = Except.error e := rfl

/-- A pure value is returned as it is. -/
theorem pure_eq_ok {a b : β} : (pure a : Except ε β) = .ok b ↔ a = b := by
  simp [pure, Except.pure]

/-- A total last part does not matter for success. -/
theorem exists_bind_pure_eq_ok {α : Type} {x : Except ε α} {f : α → β} :
    (∃ b, (x >>= fun a => pure (f a)) = Except.ok b) ↔ ∃ a, x = .ok a := by
  constructor
  · rintro ⟨b, h⟩
    obtain ⟨a, ha, -⟩ := bind_eq_ok.mp h
    exact ⟨a, ha⟩
  · rintro ⟨a, ha⟩
    exact ⟨f a, bind_eq_ok.mpr ⟨a, ha, rfl⟩⟩

/-- What does not succeed fails. -/
theorem exists_eq_error_iff {x : Except ε β} : (∃ e, x = .error e) ↔ ¬ ∃ b, x = .ok b := by
  cases x <;> simp

/-- To change the error changes no success. -/
theorem mapError_eq_ok {ε' : Type} {x : Except ε β} {f : ε → ε'} {b : β} :
    x.mapError f = .ok b ↔ x = .ok b := by
  cases x <;> simp [Except.mapError]

/-- A loop that stops at the first error succeeds with the list of its
elements' values. -/
theorem mapM_eq_ok_iff {f : α → Except ε β} {l : List α} {r : List β} :
    l.mapM f = .ok r ↔ List.Forall₂ (fun a b => f a = .ok b) l r := by
  induction l generalizing r with
  | nil => simp [pure, Except.pure, eq_comm]
  -- the head first, then the rest
  | cons a rest ih =>
    rw [List.mapM_cons, bind_eq_ok, List.forall₂_cons_left_iff]
    constructor
    · rintro ⟨b, hb, h⟩
      obtain ⟨bs, hbs, h⟩ := bind_eq_ok.mp h
      exact ⟨b, bs, hb, ih.mp hbs, (pure_eq_ok.mp h).symm⟩
    · rintro ⟨b, bs, hb, hbs, rfl⟩
      exact ⟨b, hb, bind_eq_ok.mpr ⟨bs, ih.mpr hbs, rfl⟩⟩

/-- Such a loop succeeds when each of its steps does. -/
theorem exists_mapM_eq_ok_iff {f : α → Except ε β} {l : List α} :
    (∃ r, l.mapM f = .ok r) ↔ ∀ a ∈ l, ∃ b, f a = .ok b := by
  induction l with
  | nil => simp [pure, Except.pure]
  | cons a rest ih =>
    rw [List.forall_mem_cons, ← ih]
    constructor
    · rintro ⟨r, hr⟩
      rw [List.mapM_cons] at hr
      obtain ⟨b, hb, hr⟩ := bind_eq_ok.mp hr
      obtain ⟨bs, hbs, -⟩ := bind_eq_ok.mp hr
      exact ⟨⟨b, hb⟩, bs, hbs⟩
    · rintro ⟨⟨b, hb⟩, bs, hbs⟩
      refine ⟨b :: bs, ?_⟩
      rw [List.mapM_cons, hb, ok_bind, hbs, ok_bind]
      rfl

/-- A list that is related to a singleton is one. -/
theorem exists_of_forall₂_singleton {α β : Type*} {R : α → β → Prop} {a : α}
    {l : List β}
    (h : List.Forall₂ R [a] l) : ∃ b, l = [b] ∧ R a b := by
  obtain ⟨b, bs, hb, hbs, rfl⟩ := List.forall₂_cons_left_iff.mp h
  obtain rfl := List.forall₂_nil_left_iff.mp hbs
  exact ⟨b, rfl, hb⟩

/-- The results of a loop stand where their arguments do. -/
theorem getElem?_of_mapM_eq_ok {f : α → Except ε β} {l : List α} {r : List β}
    (h : l.mapM f = .ok r) {i : Nat} {a : α} (ha : l[i]? = some a) :
    ∃ b, r[i]? = some b ∧ f a = .ok b := by
  induction mapM_eq_ok_iff.mp h generalizing i with
  | nil => cases ha
  | @cons a' b l r hb hr ih =>
    cases i with
    | zero =>
      obtain rfl : a' = a := Option.some.inj ha
      exact ⟨b, rfl, hb⟩
    | succ i => exact ih (mapM_eq_ok_iff.mpr hr) ha

/-- The order of the elements decides neither whether such a loop succeeds nor
which values it collects. -/
theorem mapM_perm {f : α → Except ε β} {l l' : List α} {r : List β} (hperm : l.Perm l')
    (h : l.mapM f = .ok r) : ∃ r', l'.mapM f = .ok r' ∧ r.Perm r' := by
  obtain ⟨r', h', hperm'⟩ :=
    (List.perm_comp_forall₂ hperm.symm (mapM_eq_ok_iff.mp h) : Relation.Comp _ _ l' r)
  exact ⟨r', mapM_eq_ok_iff.mpr h', hperm'.symm⟩

/-- A loop that produces objects of several sorts, read for one of them: where
the inputs of that sort (`p`) produce one object (`g`) and the others none, the
objects of that sort are those of a loop over the inputs of that sort. -/
theorem mapM_filter_of_filterMap_flatten {ρ : Type} {f : α → Except ε (List ρ)}
    {as : ρ → Option β} {p : α → Bool} {g : α → Except ε β} {l : List α} {rss : List (List ρ)}
    (hp : ∀ a rs, f a = .ok rs → p a = true → ∃ b, g a = .ok b ∧ rs.filterMap as = [b])
    (hnp : ∀ a rs, f a = .ok rs → p a = false → rs.filterMap as = [])
    (h : l.mapM f = .ok rss) : (l.filter p).mapM g = .ok (rss.flatten.filterMap as) := by
  induction mapM_eq_ok_iff.mp h with
  | nil => rfl
  | @cons a rs rest rss ha hrest ih =>
    have ih' := ih (mapM_eq_ok_iff.mpr hrest)
    rw [List.flatten_cons, List.filterMap_append, List.filter_cons]
    cases hpa : p a with
    | true =>
      obtain ⟨b, hb, hrs⟩ := hp a rs ha hpa
      rw [if_pos rfl, List.mapM_cons, hb, ok_bind, ih', ok_bind, hrs]
      rfl
    -- what is filtered out contributes nothing
    | false =>
      rw [hnp a rs ha hpa, List.nil_append]
      exact ih'

/-- A mapped result is passed on as such. -/
theorem exceptMap_bind {α γ : Type} (x : Except ε α) (f : α → β) (g : β → Except ε γ) :
    (x.map f >>= g) = x >>= fun a => g (f a) := by
  cases x <;> rfl

/-- To map at the end is to map the whole. -/
theorem bind_exceptMap {α γ : Type} (x : Except ε α) (g : α → Except ε β) (f : β → γ) :
    (x >>= fun a => (g a).map f) = (x >>= g).map f := by
  cases x <;> rfl

theorem bind_pure_eq_exceptMap {α : Type} (x : Except ε α) (f : α → β) :
    (x >>= fun a => pure (f a)) = x.map f := by
  cases x <;> rfl

/-- A loop that works on one component of its state is a loop over that component. -/
theorem foldlM_component {σ τ ρ α : Type} {get : σ → τ} {set : σ → τ → σ}
    (get_set : ∀ s t, get (set s t) = t) (set_set : ∀ s t t', set (set s t) t' = set s t')
    (set_get : ∀ s, set s (get s) = s) {f : σ → ρ → Except ε σ} {g : τ → α → Except ε τ}
    {request : α → ρ} (h : ∀ s a, f s (request a) = (g (get s) a).map (set s)) (l : List α)
    (s : σ) : (l.map request).foldlM f s = (l.foldlM g (get s)).map (set s) := by
  induction l generalizing s with
  | nil => exact congrArg Except.ok (set_get s).symm
  | cons a rest ih =>
    rw [List.map_cons, List.foldlM_cons, List.foldlM_cons, h]
    cases g (get s) a with
    | error e => rfl
    -- the component has moved on, and the rest is as before
    | ok t =>
      show (rest.map request).foldlM f (set s t) = (rest.foldlM g t).map (set s)
      rw [ih, get_set, funext (set_set s t)]

/-- A loop that collects errors has none at the end when it had none before and no
step adds one. -/
theorem foldl_eq_nil_iff {f : List ε → α → List ε} {P : α → Prop}
    (h : ∀ errs a, f errs a = [] ↔ errs = [] ∧ P a) (l : List α) (errs : List ε) :
    l.foldl f errs = [] ↔ errs = [] ∧ ∀ a ∈ l, P a := by
  induction l generalizing errs with
  | nil => simp
  | cons a rest ih => rw [List.foldl_cons, ih, h, List.forall_mem_cons, and_assoc]

end Go
