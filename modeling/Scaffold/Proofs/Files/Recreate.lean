import Scaffold.Proofs.Files.Regular
import Scaffold.Proofs.Files.Way

set_option autoImplicit false

/-!
# Directories made anew

To make a directory anew takes away all that is at its place and below, makes what is missing above
it, and does nothing else. Two trees that are the same elsewhere come out the same.
-/
namespace Scaffold.Files

variable {f f' g g' : Files} {T q : Place} {parent : Path} {n : String}

/-! ### What is taken away -/

def clear (p : Path) : Change Unit := fun fs =>
  match fs.statLink p with
  | .ok (place, .directory) =>
    if p.names = [] then (.error .invalidArgument, fs.eraseBelow place)
    else if p.names.getLast? = some ".." then (.error .notEmpty, fs.eraseBelow place)
    else (.ok (), (fs.eraseBelow place).erase place)
  | .ok (place, _) => (.ok (), fs.erase place)
  | .error fault => if fault.isAbsence then (.ok (), fs) else (.error fault, fs)

theorem recreate_eq (p : Path) (fs : Files) :
    recreate p fs = match clear p fs with
      | (.error fault, fs') => (.error fault, fs')
      | (.ok (), fs') => makeNames p.anchor false p.names fs' := rfl

/-- All that was at a place and below it is gone, and nothing else. -/
structure Cleared (T : Place) (f f' : Files) : Prop where
  regular : f'.Regular
  current : f'.current = f.current
  get? : ∀ q, f'.get? q = if T <+: q then none else f.get? q

theorem Regular.cleared (hf : f.Regular) (hcurrent : ¬ T <+: f.current)
    (hentries : f'.entries.Sublist f.entries) (hsame : f'.current = f.current)
    (hget : ∀ q, f'.get? q = if T <+: q then none else f.get? q) : Cleared T f f' := by
  have hkept : ∀ {q : Place} {e : Entry}, f'.get? q = some e → ¬ T <+: q ∧ f.get? q = some e := by
    intro q e he
    rw [hget] at he
    split at he
    · cases he
    · rename_i hout
      exact ⟨hout, he⟩
  refine ⟨⟨⟨?_, ?_, ?_, ?_, ?_⟩, ?_⟩, hsame, hget⟩
  · exact hf.distinct.sublist (hentries.map _)
  · intro place n e he
    obtain ⟨hout, he⟩ := hkept he
    rw [hget, if_neg fun hin => hout (hin.trans (List.prefix_append place [n]))]
    exact hf.inside he
  · exact fun he => hf.named (hkept he).2
  · exact fun he => hf.targets (hkept he).2
  · rw [hsame, hget, if_neg hcurrent]
    exact hf.current
  · exact fun place target he => hf.noLink place target (hkept he).2

section
variable (hf : f.Regular) (hstraight : f.Straight parent) (hn : Path.IsPlain n)
  (hzero : '\x00' ∉ n.toList)
include hf hstraight hn hzero

theorem absent_of_stat {fault : Fault} (hstat : f.stat (parent.child n) = .error fault)
    (habsent : fault.isAbsence = true) : f.get? (f.nominal parent ++ [n]) = none := by
  by_cases hdir : f.get? (f.nominal parent) = some .directory
  · have hlocate := locate_straight hf hstraight hdir hn.2.2.2 hzero
    by_cases hfits : Fits (parent.child n)
    · rw [if_pos hfits, landing] at hlocate
      rw [stat, hlocate] at hstat
      cases he : f.get? (f.nominal parent ++ [n]) with
      | none => rfl
      | some e =>
        rw [he] at hstat
        cases hstat
    · rw [if_neg hfits] at hlocate
      rw [stat, hlocate] at hstat
      cases hstat
      cases habsent
  · exact hf.absent_below hdir (by simp)

theorem clear_cleared (hcurrent : ¬ f.nominal parent ++ [n] <+: f.current) {b : Bool}
    (hthere : f.exists? (parent.child n) = .ok b) :
    ∃ f', clear (parent.child n) f = (.ok (), f') ∧ Cleared (f.nominal parent ++ [n]) f f' := by
  have hnames : (parent.child n).names ≠ [] := by simp [Path.child]
  have hlast : (parent.child n).names.getLast? ≠ some ".." := by simp [Path.child, hn.2.2.2]
  unfold clear
  rw [statLink_regular hf]
  cases hs : f.stat (parent.child n) with
  | error fault =>
    have habsent : fault.isAbsence = true := by
      unfold exists? asks at hthere
      rw [hs] at hthere
      by_contra hnot
      simp [hnot] at hthere
    have hnone := absent_of_stat hf hstraight hn hzero hs habsent
    refine ⟨f, by simp [habsent], hf, rfl, fun q => ?_⟩
    split
    · rename_i hin
      exact hf.absent_from hnone hin
    · rfl
  | ok found =>
    obtain ⟨place, e⟩ := found
    obtain ⟨hplace, he⟩ := stat_nominal hf hs
    rw [nominal_child hn.2.2.2] at hplace
    subst hplace
    have hne : f.nominal parent ++ [n] ≠ [] := by simp
    cases e with
    | link target => exact absurd he (hf.noLink _ _)
    | directory =>
      refine ⟨(f.eraseBelow (f.nominal parent ++ [n])).erase (f.nominal parent ++ [n]),
        by simp only [if_neg hnames, if_neg hlast], hf.cleared hcurrent ?_ rfl fun q => ?_⟩
      · exact (List.filter_sublist).trans List.filter_sublist
      · rw [get?_erase _ hne, get?_eraseBelow]
        by_cases hq : q = f.nominal parent ++ [n]
        · simp [hq]
        · simp [hq]
    | file c =>
      refine ⟨_, rfl, hf.cleared hcurrent List.filter_sublist rfl fun q => ?_⟩
      rw [get?_erase _ hne]
      by_cases hq : q = f.nominal parent ++ [n]
      · simp [hq]
      · rw [if_neg hq]
        split
        · rename_i hin
          obtain ⟨rest, rfl⟩ := hin
          have hrest : rest ≠ [] := fun hnil => hq (by simp [hnil])
          exact hf.absent_below (by simp [he]) hrest
        · rfl

end

/-! ### What is made -/

/-- Away from a place all is left alone, but for missing directories above it that are made. -/
def Intact (T : Place) (f f' : Files) : Prop :=
  ∀ q, ¬ T <+: q → f'.get? q = f.get? q ∨ q <+: T ∧ f.get? q = none ∧ f'.get? q = some .directory

theorem Intact.grown (h : Intact T f f') {f'' : Files} (h' : Grown T f' f'') : Intact T f f'' := by
  intro q hq
  rw [h'.outside q hq]
  exact h q hq

theorem Made.regular {p : Path} (h : Made p f f') (hf : f.Regular) : f'.Regular := by
  refine ⟨h.wellFormed, fun place target hlink => ?_⟩
  rcases h.change place with hsame | ⟨-, hdir, -⟩
  · exact hf.noLink place target (hsame ▸ hlink)
  · rw [hlink] at hdir
    cases hdir

theorem nominal_congr (h : g.current = f.current) (p : Path) : g.nominal p = f.nominal p := by
  unfold nominal start
  rw [h]

section
variable (hf : f.Regular) (hstraight : f.Straight parent) (hn : Path.IsPlain n)
include hf hstraight hn

theorem above_of_madeFor {f₁ : Files} (hcleared : Cleared (f.nominal parent ++ [n]) f f₁)
    (hf' : f'.Regular) (hcurrent : f'.current = f.current) (hout : ¬ f.nominal parent ++ [n] <+: q)
    (hmade : MadeFor (parent.child n) f₁ f' q) : q <+: f.nominal parent ++ [n] := by
  obtain ⟨hnone, -, names, hnames, hstat⟩ := hmade
  rw [hcleared.get?, if_neg hout] at hnone
  obtain ⟨hplace, -⟩ := stat_nominal hf' hstat
  rw [nominal_congr hcurrent] at hplace
  have hstart : f.start ⟨(parent.child n).anchor, names⟩ = f.start parent := rfl
  rcases hstraight with hdown | ⟨P, hP⟩
  · have hup : ".." ∉ (parent.child n).names := by simpa [Path.child, hdown] using hn.2.2.2.symm
    have hbelow : ".." ∉ names := fun hmem => hup (hnames.subset hmem)
    rw [hplace, ← nominal_child hn.2.2.2, nominal_of_down hf.toWellFormed hup,
      nominal_of_down hf.toWellFormed hbelow]
    exact (List.prefix_append_right_inj _).2 hnames
  · exfalso
    rcases List.prefix_concat_iff.1 hnames with rfl | ⟨rest, hrest⟩
    · exact hout (by rw [hplace, ← nominal_child hn.2.2.2]; exact List.prefix_rfl)
    · -- What is above a directory is there, and has not been taken away.
      have hleads := (stat_directory_iff.1 hP).2
      obtain ⟨Q, fewer, hfront, -⟩ := hleads.split hrest.symm (by simp)
      obtain ⟨taken, htaken, hQ⟩ := hfront.nominal hf (hf.start_down parent)
      have hdir := hfront.isDirectory hf.toWellFormed (start_isDirectory hf.toWellFormed parent)
      rw [List.append_nil] at htaken
      have hsame : Q = q := by rw [hQ, hplace, nominal, hstart, htaken]
      rw [hsame, hnone] at hdir
      cases hdir

theorem recreate_remakes (hzero : '\x00' ∉ n.toList) (hnormal : parent.IsNormal)
    (hcurrent : ¬ f.nominal parent ++ [n] <+: f.current) {b : Bool}
    (hthere : f.exists? (parent.child n) = .ok b) {r : Except Fault Unit}
    (h : recreate (parent.child n) f = (r, f')) :
    f'.Regular ∧ f'.current = f.current ∧ Intact (f.nominal parent ++ [n]) f f' ∧
      (r = .ok () → f'.stat (parent.child n) = .ok (f.nominal parent ++ [n], .directory)) := by
  obtain ⟨f₁, hclear, hcleared⟩ := clear_cleared hf hstraight hn hzero hcurrent hthere
  rw [recreate_eq, hclear] at h
  obtain ⟨hmade, hstat⟩ := makeNames_made (hnormal.child hn) hcleared.regular.toWellFormed h
  have hf' : f'.Regular := hmade.regular hcleared.regular
  have hsame : f'.current = f.current := hmade.later.current.trans hcleared.current
  refine ⟨hf', hsame, fun q hout => ?_, fun hr => ?_⟩
  · have hkept : f₁.get? q = f.get? q := by rw [hcleared.get?, if_neg hout]
    rcases hmade.change q with hleft | hnew
    · exact .inl (hleft.trans hkept)
    · exact .inr ⟨above_of_madeFor hf hstraight hn hcleared hf' hsame hout hnew,
        hkept ▸ hnew.1, hnew.2.1⟩
  · obtain ⟨D, hD⟩ := hstat hr
    have hD : f'.stat (parent.child n) = .ok (D, .directory) := hD
    obtain ⟨rfl, -⟩ := stat_nominal hf' hD
    rw [hD, nominal_congr hsame, nominal_child hn.2.2.2]

end

/-! ### Two trees -/

/-- Two trees are the same but for what is at a place and below it. -/
structure SameBut (T : Place) (f g : Files) : Prop where
  current : g.current = f.current
  get? : ∀ q, ¬ T <+: q → g.get? q = f.get? q

theorem SameBut.same (h : SameBut T f g) (hf : f.WellFormed) (hg : g.WellFormed)
    (hT : f.get? T = none) (hT' : g.get? T = none) : f.Same g := by
  refine ⟨h.current, fun q => ?_⟩
  by_cases hq : T <+: q
  · rw [hf.absent_from hT hq, hg.absent_from hT' hq]
  · exact h.get? q hq

theorem Cleared.same (h : SameBut T f g) (hf : Cleared T f f') (hg : Cleared T g g') :
    f'.Same g' := by
  refine ⟨by rw [hg.current, hf.current, h.current], fun q => ?_⟩
  rw [hf.get?, hg.get?]
  split
  · rfl
  · rename_i hq
    exact h.get? q hq

section
variable (hf : f.Regular) (hg : g.Regular) (hstraight : f.Straight parent)
  (hstraight' : g.Straight parent) (hn : Path.IsPlain n) (hzero : '\x00' ∉ n.toList)
  (h : SameBut (f.nominal parent ++ [n]) f g)
include hf hg hstraight hstraight' hn hzero h

theorem exists?_sameBut :
    (∃ b b', f.exists? (parent.child n) = .ok b ∧ g.exists? (parent.child n) = .ok b') ∨
      ∃ fault, f.exists? (parent.child n) = .error fault ∧
        g.exists? (parent.child n) = .error fault := by
  have hparent : g.get? (f.nominal parent) = f.get? (f.nominal parent) :=
    h.get? _ fun hin => by simpa using hin.length_le
  by_cases hdir : f.get? (f.nominal parent) = some .directory
  · have hlocate := locate_straight hf hstraight hdir hn.2.2.2 hzero
    have hlocate' := locate_straight hg hstraight'
      (by rw [nominal_congr h.current, hparent, hdir]) hn.2.2.2 hzero
    by_cases hfits : Fits (parent.child n)
    · have hanswer : ∀ {fs : Files} {place : Place},
          fs.locate true (parent.child n) = fs.landing place →
          ∃ b, fs.exists? (parent.child n) = .ok b := by
        intro fs place hl
        rw [exists?, stat, hl, landing]
        cases fs.get? place with
        | none => exact ⟨false, rfl⟩
        | some e => exact ⟨true, rfl⟩
      rw [if_pos hfits] at hlocate hlocate'
      obtain ⟨b, hb⟩ := hanswer hlocate
      obtain ⟨b', hb'⟩ := hanswer hlocate'
      exact .inl ⟨b, b', hb, hb'⟩
    · rw [if_neg hfits] at hlocate hlocate'
      refine .inr ⟨.nameTooLong, ?_, ?_⟩
      · rw [exists?, stat, hlocate]
        rfl
      · rw [exists?, stat, hlocate']
        rfl
  · -- Below what is no directory there is nothing in either tree, so that they do not differ at all.
    have hdir' : g.get? (f.nominal parent) ≠ some .directory := by rwa [hparent]
    have hsame : f.Same g := h.same hf.toWellFormed hg.toWellFormed
      (hf.absent_below hdir (by simp)) (hg.absent_below hdir' (by simp))
    rw [exists?_congr (hsame.alike _)]
    cases f.exists? (parent.child n) with
    | ok b => exact .inl ⟨b, b, rfl, rfl⟩
    | error fault => exact .inr ⟨fault, rfl, rfl⟩

theorem recreate_sameBut (hnormal : parent.IsNormal)
    (hcurrent : ¬ f.nominal parent ++ [n] <+: f.current) {b b' : Bool}
    (hthere : f.exists? (parent.child n) = .ok b) (hthere' : g.exists? (parent.child n) = .ok b') :
    (recreate (parent.child n) g).1 = (recreate (parent.child n) f).1 ∧
      (recreate (parent.child n) f).2.Same (recreate (parent.child n) g).2 := by
  have hplace : g.nominal parent = f.nominal parent := nominal_congr h.current parent
  obtain ⟨f', hclear, hcleared⟩ := clear_cleared hf hstraight hn hzero hcurrent hthere
  obtain ⟨g', hclear', hcleared'⟩ := clear_cleared hg hstraight' hn hzero
    (by rw [hplace, h.current]; exact hcurrent) hthere'
  rw [hplace] at hcleared'
  have hsame : f'.Same g' := hcleared.same h hcleared'
  -- The directory is made over trees that do not differ any more, wherever its path leads now.
  have hmake := makeNames_parallel (hnormal.child hn) hcleared.regular.toWellFormed
    hcleared'.regular.toWellFormed (hsame.alike _) false
  rw [recreate_eq, recreate_eq, hclear, hclear']
  exact ⟨hmake.result, hmake.same hsame⟩

end

end Scaffold.Files
