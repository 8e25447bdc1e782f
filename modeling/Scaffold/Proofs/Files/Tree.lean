import Mathlib.Data.List.Induction
import Mathlib.Data.String.Basic
import Scaffold.Files.Basic

set_option autoImplicit false

/-!
# Trees of files as finite maps

What a change leaves at each place, which trees are trees, and what it means for a tree to extend
another one. Nothing is said here about paths.
-/
namespace Scaffold.Files

variable {fs fs' fs'' : Files} {place q : Place} {n : String} {e : Entry}

/-! ### The entry at a place -/

theorem get?_of_ne_nil (fs : Files) (h : place ≠ []) : fs.get? place = fs.entries.lookup place :=
  if_neg h

theorem mem_entries_of_get? (h : place ≠ []) (he : fs.get? place = some e) :
    (place, e) ∈ fs.entries := by
  rw [get?_of_ne_nil fs h] at he
  obtain ⟨front, rest, hentries, -⟩ := List.lookup_eq_some_iff.1 he
  simp [hentries]

theorem exists_get?_iff (h : place ≠ []) :
    (∃ e, fs.get? place = some e) ↔ ∃ e, (place, e) ∈ fs.entries := by
  constructor
  · rintro ⟨e, he⟩
    exact ⟨e, mem_entries_of_get? h he⟩
  · rintro ⟨e, he⟩
    rw [get?_of_ne_nil fs h, ← Option.isSome_iff_exists, List.lookup_isSome_iff]
    exact ⟨_, he, by simp⟩

private theorem lookup_replaced (xs : List (Place × Entry)) (place q : Place) (e : Entry) :
    (xs.map fun x => if x.1 = place then (place, e) else x).lookup q =
      if q = place ∧ xs.any (·.1 = place) then some e else xs.lookup q := by
  induction xs with
  | nil => simp
  | cons x xs ih =>
    obtain ⟨key, old⟩ := x
    by_cases hq : q = key
    · subst hq
      by_cases hkey : q = place <;> simp [hkey]
    · have hne : (q == key) = false := beq_eq_false_iff_ne.2 hq
      by_cases hkey : key = place
      · subst hkey
        simp [List.lookup_cons, hq, hne, ih]
      · simp only [List.map_cons, List.lookup_cons, List.any_cons, if_neg hkey, hne, ih,
          decide_eq_false hkey, Bool.false_or]

theorem get?_set (fs : Files) (h : place ≠ []) (e : Entry) (q : Place) :
    (fs.set place e).get? q = if q = place then some e else fs.get? q := by
  by_cases hq : q = []
  · subst hq
    simp [get?, Ne.symm h]
  simp only [get?, hq, if_false, set]
  by_cases hany : fs.entries.any (·.1 = place)
  · simp only [hany, if_true, lookup_replaced, and_true]
  · simp only [hany]
    by_cases heq : q = place
    · subst heq
      have hnone : fs.entries.lookup q = none := by
        rw [List.lookup_eq_none_iff]
        intro x hx
        simp only [List.any_eq_true, decide_eq_true_eq, not_exists, not_and] at hany
        simpa using fun h => hany x hx h.symm
      simp [List.lookup_append, hnone]
    · have hne : (q == place) = false := beq_eq_false_iff_ne.2 heq
      simp [List.lookup_append, List.lookup_cons, heq, hne]

theorem current_set (fs : Files) (place : Place) (e : Entry) :
    (fs.set place e).current = fs.current := by
  unfold set
  split <;> rfl

theorem keys_set (fs : Files) (place : Place) (e : Entry) :
    (fs.set place e).entries.map (·.1) =
      if place ∈ fs.entries.map (·.1) then fs.entries.map (·.1)
      else fs.entries.map (·.1) ++ [place] := by
  have hany : fs.entries.any (·.1 = place) = decide (place ∈ fs.entries.map (·.1)) := by
    rw [Bool.eq_iff_iff]
    simp
  unfold set
  rw [hany]
  by_cases h : place ∈ fs.entries.map (·.1)
  · simp only [h, decide_true, if_true, List.map_map]
    apply List.map_congr_left
    intro x _
    by_cases hx : x.1 = place <;> simp [hx]
  · simp [h]

private theorem lookup_filter (xs : List (Place × Entry)) (keep : Place → Bool) (q : Place) :
    (xs.filter fun x => keep x.1).lookup q = if keep q then xs.lookup q else none := by
  induction xs with
  | nil => simp
  | cons x xs ih =>
    obtain ⟨key, e⟩ := x
    by_cases hq : q = key
    · subst hq
      by_cases hkeep : keep q = true
      · simp [hkeep]
      · simp only [hkeep] at ih
        simpa [hkeep] using ih
    · have hne : (q == key) = false := beq_eq_false_iff_ne.2 hq
      by_cases hkeep : keep key = true <;> simp [hkeep, List.lookup_cons, hne, ih]

theorem get?_erase (fs : Files) (h : place ≠ []) (q : Place) :
    (fs.erase place).get? q = if q = place then none else fs.get? q := by
  by_cases hq : q = []
  · subst hq
    simp [get?, Ne.symm h]
  · have hlookup := lookup_filter fs.entries (fun key => decide (key ≠ place)) q
    simp only [get?, hq, if_false, erase, hlookup]
    by_cases heq : q = place <;> simp [heq]

theorem get?_eraseBelow (fs : Files) (place q : Place) :
    (fs.eraseBelow place).get? q = if place <+: q ∧ q ≠ place then none else fs.get? q := by
  by_cases hq : q = []
  · subst hq
    have hnot : ¬ (place <+: [] ∧ [] ≠ place) := fun h => h.2 (List.prefix_nil.1 h.1).symm
    rw [if_neg hnot]
    rfl
  · have hlookup := lookup_filter fs.entries
      (fun key => !(place.isPrefixOf key && decide (key ≠ place))) q
    simp only [get?, hq, if_false, eraseBelow, hlookup]
    by_cases hbelow : place <+: q <;> by_cases heq : q = place <;> simp [hbelow, heq]

/-! ### Well-formed trees -/

/-- A tree whose places are taken once each, whose entries all stand in directories under names
that entries can have, whose links hold texts that links can have, and that relative paths can
start from. -/
structure WellFormed (fs : Files) : Prop where
  distinct : (fs.entries.map (·.1)).Nodup
  inside : ∀ {place : Place} {n : String} {e : Entry},
    fs.get? (place ++ [n]) = some e → fs.get? place = some .directory
  named : ∀ {place : Place} {n : String} {e : Entry},
    fs.get? (place ++ [n]) = some e → Path.IsPlain n ∧ '\x00' ∉ n.toList
  targets : ∀ {place : Place} {target : String},
    fs.get? place = some (.link target) → '\x00' ∉ target.toList
  current : fs.get? fs.current = some .directory

theorem WellFormed.above (h : fs.WellFormed) {rest : List String}
    (he : fs.get? (place ++ rest) = some e) (hrest : rest ≠ []) :
    fs.get? place = some .directory := by
  induction rest using List.reverseRecOn generalizing e with
  | nil => exact absurd rfl hrest
  | append_singleton rest n ih =>
    rw [← List.append_assoc] at he
    have hdir := h.inside he
    by_cases hr : rest = []
    · simpa [hr] using hdir
    · exact ih hdir hr

theorem WellFormed.named_of_mem (h : fs.WellFormed) (he : fs.get? place = some e) :
    ∀ n ∈ place, Path.IsPlain n ∧ '\x00' ∉ n.toList := by
  induction place using List.reverseRecOn generalizing e with
  | nil => simp
  | append_singleton place m ih =>
    intro n hn
    rcases List.mem_append.1 hn with hn | hn
    · exact ih (h.inside he) n hn
    · rw [List.mem_singleton.1 hn]
      exact h.named he

theorem WellFormed.plain (h : fs.WellFormed) (he : fs.get? place = some e) :
    ∀ n ∈ place, Path.IsPlain n :=
  fun n hn => (h.named_of_mem he n hn).1

theorem WellFormed.absent_below (h : fs.WellFormed) {rest : List String}
    (hplace : fs.get? place ≠ some .directory) (hrest : rest ≠ []) :
    fs.get? (place ++ rest) = none := by
  cases he : fs.get? (place ++ rest) with
  | none => rfl
  | some e => exact absurd (h.above he hrest) hplace

theorem WellFormed.absent_from (h : fs.WellFormed) (hplace : fs.get? place = none)
    (hq : place <+: q) : fs.get? q = none := by
  obtain ⟨rest, rfl⟩ := hq
  by_cases hrest : rest = []
  · rw [hrest, List.append_nil, hplace]
  · exact h.absent_below (by simp [hplace]) hrest

theorem WellFormed.get?_dropLast (h : fs.WellFormed) (hp : fs.get? place = some .directory) :
    fs.get? place.dropLast = some .directory := by
  rcases List.eq_nil_or_concat place with rfl | ⟨up, n, rfl⟩
  · rfl
  · rw [List.concat_eq_append] at hp ⊢
    rw [List.dropLast_concat]
    exact h.inside hp

/-- A tree stays well formed if an entry other than a link is set in a directory, unless one with
others below it makes way for another kind. -/
theorem WellFormed.set (h : fs.WellFormed) (hdir : fs.get? place = some .directory)
    (hn : Path.IsPlain n) (hzero : '\x00' ∉ n.toList) (hlink : ∀ target, e ≠ .link target)
    (hkind : fs.get? (place ++ [n]) = some .directory → e = .directory) :
    (fs.set (place ++ [n]) e).WellFormed := by
  have hne : place ++ [n] ≠ [] := by simp
  constructor
  · rw [keys_set]
    split
    · exact h.distinct
    · rename_i hnew
      exact List.nodup_append.2 ⟨h.distinct, by simp, by
        intro x hx y hy hxy
        exact hnew (by rwa [← List.mem_singleton.1 hy, ← hxy])⟩
  · intro q m e' he'
    rw [get?_set _ hne] at he' ⊢
    by_cases hq : q ++ [m] = place ++ [n]
    · obtain ⟨rfl, -⟩ := List.append_inj' hq rfl
      rw [if_neg (by simp)]
      exact hdir
    · rw [if_neg hq] at he'
      have hold := h.inside he'
      by_cases hqp : q = place ++ [n]
      · rw [if_pos hqp, hkind (hqp ▸ hold)]
      · rwa [if_neg hqp]
  · intro q m e' he'
    rw [get?_set _ hne] at he'
    by_cases hq : q ++ [m] = place ++ [n]
    · obtain ⟨-, hmn⟩ := List.append_inj' hq rfl
      obtain rfl : m = n := by simpa using hmn
      exact ⟨hn, hzero⟩
    · rw [if_neg hq] at he'
      exact h.named he'
  · intro q target hq
    rw [get?_set _ hne] at hq
    by_cases hqp : q = place ++ [n]
    · rw [if_pos hqp] at hq
      exact absurd (Option.some.inj hq) (hlink target)
    · rw [if_neg hqp] at hq
      exact h.targets hq
  · rw [current_set, get?_set _ hne]
    by_cases hc : fs.current = place ++ [n]
    · rw [if_pos hc, hkind (hc ▸ h.current)]
    · rw [if_neg hc]
      exact h.current

/-- What is to be checked of an entry of a well-formed tree. -/
def Sound (fs : Files) (x : Place × Entry) : Prop :=
  x.1 ≠ [] ∧ fs.get? x.1.dropLast = some .directory ∧
    (∀ n ∈ x.1.getLast?, Path.IsPlain n ∧ '\x00' ∉ n.toList) ∧
    ∀ target, x.2 = .link target → '\x00' ∉ target.toList

theorem wellFormed_of_sound (hdistinct : (fs.entries.map (·.1)).Nodup)
    (hsound : ∀ x ∈ fs.entries, fs.Sound x) (hcurrent : fs.get? fs.current = some .directory) :
    fs.WellFormed := by
  refine ⟨hdistinct, fun {place n e} he => ?_, fun {place n e} he => ?_, fun {place target} he => ?_,
    hcurrent⟩
  · have hdir := (hsound _ (mem_entries_of_get? (by simp) he)).2.1
    rwa [List.dropLast_concat] at hdir
  · exact (hsound _ (mem_entries_of_get? (by simp) he)).2.2.1 n (by simp)
  · by_cases hplace : place = []
    · rw [hplace, get?_root] at he
      cases he
    · exact (hsound _ (mem_entries_of_get? hplace he)).2.2.2 target rfl

/-! ### The names in a directory -/

theorem mem_names (fs : Files) (place : Place) (n : String) :
    n ∈ fs.names place ↔ ∃ e, fs.get? (place ++ [n]) = some e := by
  rw [exists_get?_iff (by simp)]
  simp only [names, List.mem_mergeSort, List.mem_filterMap]
  constructor
  · rintro ⟨⟨key, e⟩, hx, hlast⟩
    split at hlast
    · rename_i hkey
      refine ⟨e, ?_⟩
      rw [← hkey.2]
      have hn := List.dropLast_append_getLast? n (Option.mem_def.2 hlast)
      rwa [hn]
    · exact absurd hlast (by simp)
  · rintro ⟨e, hx⟩
    exact ⟨(place ++ [n], e), hx, by simp⟩

private theorem names_nodup (h : fs.WellFormed) (place : Place) : (fs.names place).Nodup := by
  rw [names, (List.mergeSort_perm _ _).nodup_iff, List.Nodup, List.pairwise_filterMap]
  refine (List.pairwise_map.1 h.distinct).imp ?_
  intro x y hxy m hm m' hm' hmm
  subst hmm
  apply hxy
  split at hm
  · split at hm'
    · rename_i hx hy
      calc x.1 = x.1.dropLast ++ [m] := (List.dropLast_append_getLast? m (Option.mem_def.2 hm)).symm
        _ = y.1.dropLast ++ [m] := by rw [hx.2, hy.2]
        _ = y.1 := List.dropLast_append_getLast? m (Option.mem_def.2 hm')
    · exact absurd hm' (by simp)
  · exact absurd hm (by simp)

theorem rising_mergeSort {α : Type} [LinearOrder α] {xs : List α} (h : xs.Nodup) :
    (xs.mergeSort (· ≤ ·)).Pairwise (· < ·) := by
  have hle : (xs.mergeSort (· ≤ ·)).Pairwise (· ≤ ·) := by
    have hsorted := @List.pairwise_mergeSort α (fun a b => decide (a ≤ b))
      (fun a b c hab hbc => by simp only [decide_eq_true_eq] at *; exact hab.trans hbc)
      (fun a b => by simpa using le_total a b) xs
    simpa using hsorted
  have hnodup : (xs.mergeSort (· ≤ ·)).Nodup := (List.mergeSort_perm xs _).nodup_iff.2 h
  exact (hle.and hnodup).imp fun hab => lt_of_le_of_ne hab.1 hab.2

theorem names_rising (h : fs.WellFormed) (place : Place) : (fs.names place).Pairwise (· < ·) :=
  rising_mergeSort (((List.mergeSort_perm _ _).nodup_iff).1 (names_nodup h place))

/-! ### Later trees -/

/-- A tree has all that an earlier one has, save for what is in regular files. -/
structure Extends (fs fs' : Files) : Prop where
  current : fs'.current = fs.current
  directory : ∀ {place : Place}, fs.get? place = some .directory →
    fs'.get? place = some .directory
  link : ∀ {place : Place} {target : String}, fs.get? place = some (.link target) →
    fs'.get? place = some (.link target)
  file : ∀ {place : Place} {c : ByteArray}, fs.get? place = some (.file c) →
    ∃ c', fs'.get? place = some (.file c')

theorem Extends.refl (fs : Files) : fs.Extends fs :=
  ⟨rfl, id, id, fun {_ c} h => ⟨c, h⟩⟩

theorem Extends.trans (h : fs.Extends fs') (h' : fs'.Extends fs'') : fs.Extends fs'' where
  current := h'.current.trans h.current
  directory hp := h'.directory (h.directory hp)
  link hp := h'.link (h.link hp)
  file hp := by
    obtain ⟨c', hc'⟩ := h.file hp
    exact h'.file hc'

theorem Extends.there (h : fs.Extends fs') (he : fs.get? place = some e) :
    ∃ e', fs'.get? place = some e' ∧ (e' = .directory ↔ e = .directory) := by
  cases e with
  | directory => exact ⟨_, h.directory he, by simp⟩
  | link target => exact ⟨_, h.link he, by simp⟩
  | file c =>
    obtain ⟨c', hc'⟩ := h.file he
    exact ⟨_, hc', by simp⟩

theorem extends_set (hne : place ≠ [])
    (h : fs.get? place = none ∨ ∃ c c', fs.get? place = some (.file c) ∧ e = .file c') :
    fs.Extends (fs.set place e) := by
  have other : ∀ {q : Place} {old : Entry}, fs.get? q = some old → (∀ c, old ≠ .file c) →
      (fs.set place e).get? q = some old := by
    intro q old hq hold
    rw [get?_set _ hne]
    by_cases hqp : q = place
    · subst hqp
      rcases h with hnone | ⟨c, c', hfile, -⟩
      · rw [hnone] at hq
        exact absurd hq (by simp)
      · rw [hfile] at hq
        exact absurd (Option.some.inj hq).symm (hold c)
    · rwa [if_neg hqp]
  refine ⟨current_set _ _ _, fun hq => other hq (by simp), fun hq => other hq (by simp), ?_⟩
  intro q c hq
  rw [get?_set _ hne]
  by_cases hqp : q = place
  · subst hqp
    rcases h with hnone | ⟨-, c', -, rfl⟩
    · rw [hnone] at hq
      exact absurd hq (by simp)
    · exact ⟨c', if_pos rfl⟩
  · exact ⟨c, by rwa [if_neg hqp]⟩

structure Same (fs fs' : Files) : Prop where
  current : fs'.current = fs.current
  get? : ∀ place, fs'.get? place = fs.get? place

/-- No entry of the tree at or below a place is a link. -/
def LinkFree (fs : Files) (place : Place) : Prop :=
  ∀ (rel : List String) (target : String), fs.get? (place ++ rel) ≠ some (.link target)

theorem linkFree_of_entries (h : ∀ x ∈ fs.entries, ∀ target, x.2 ≠ .link target) (place : Place) :
    fs.LinkFree place := by
  intro rel target hlink
  by_cases hroot : place ++ rel = []
  · rw [hroot, get?_root] at hlink
    cases hlink
  · exact h _ (mem_entries_of_get? hroot hlink) target rfl

end Scaffold.Files
