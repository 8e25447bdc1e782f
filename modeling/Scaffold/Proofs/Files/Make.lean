import Scaffold.Files.Change
import Scaffold.Proofs.Files.Locate

set_option autoImplicit false

/-!
# What changes leave behind

Making a directory with those above it makes only what was missing on the way. One name below a
directory, making a directory, writing and copying either fail without a trace or put one entry
there and do nothing else.
-/
namespace Scaffold.Files

variable {fs fs' fs'' : Files} {p q : Path} {P D : Place} {n : String} {e : Entry} {f : Fault}

/-! ### Directories with those above them -/

/-- The place is that of a new directory, where the path or one above it leads. -/
def MadeFor (p : Path) (fs fs' : Files) (place : Place) : Prop :=
  fs.get? place = none ∧ fs'.get? place = some .directory ∧
    ∃ names, names <+: p.names ∧ fs'.stat ⟨p.anchor, names⟩ = .ok (place, .directory)

/-- Directories were made where the path or one above it leads, and nothing else was done. -/
structure Made (p : Path) (fs fs' : Files) : Prop where
  wellFormed : fs'.WellFormed
  later : fs.Extends fs'
  change : ∀ place, fs'.get? place = fs.get? place ∨ MadeFor p fs fs' place

theorem Made.refl (p : Path) (hfs : fs.WellFormed) : Made p fs fs :=
  ⟨hfs, .refl fs, fun _ => .inl rfl⟩

theorem Made.trans (h : Made q fs fs') (h' : Made p fs' fs'') (hanchor : q.anchor = p.anchor)
    (hnames : q.names <+: p.names) : Made p fs fs'' := by
  refine ⟨h'.wellFormed, h.later.trans h'.later, fun place => ?_⟩
  rcases h'.change place with hsame' | ⟨hnone', hdir', hup'⟩
  · rcases h.change place with hsame | ⟨hnone, hdir, names, hup, hstat⟩
    · exact .inl (hsame'.trans hsame)
    · refine .inr ⟨hnone, by rw [hsame', hdir], names, hup.trans hnames, ?_⟩
      rw [← hanchor]
      exact stat_directory_extends hstat h'.later
  · rcases h.change place with hsame | ⟨hnone, hdir, -⟩
    · exact .inr ⟨hsame ▸ hnone', hdir', hup'⟩
    · rw [hnone'] at hdir
      cases hdir

theorem Made.linkFree (h : Made p fs fs') {place : Place} (hfree : fs.LinkFree place) :
    fs'.LinkFree place := by
  intro rel target hlink
  rcases h.change (place ++ rel) with hsame | ⟨-, hdir, -⟩
  · exact hfree rel target (hsame ▸ hlink)
  · rw [hlink] at hdir
    cases hdir

theorem isDirectory?_eq_true : fs.isDirectory? p = .ok true ↔ ∃ D, fs.stat p = .ok (D, .directory) := by
  unfold isDirectory? asks
  cases hs : fs.stat p with
  | ok found =>
    obtain ⟨place, e⟩ := found
    cases e <;> simp
  | error f =>
    by_cases hf : f.isAbsence <;> simp [hf]

theorem settle_eq_ok {existOk : Bool} (h : settle p existOk f fs = .ok ()) :
    existOk = true ∧ ∃ D, fs.stat p = .ok (D, .directory) := by
  unfold settle at h
  split at h
  · rename_i hok
    have hexist : existOk = true := by
      cases existOk <;> simp_all
    refine ⟨hexist, ?_⟩
    split at h
    · rename_i hdir
      exact isDirectory?_eq_true.1 hdir
    · cases h
    · cases h
  · cases h

theorem points_of_free {follow : Bool} {place : Place} (h : fs.locate follow p = .free place) :
    ∃ P n, place = P ++ [n] ∧ fs.Points p P n ∧ fs.get? place = none := by
  rcases locate_cases fs follow p with ⟨f, hl⟩ | ⟨P, hl, -⟩ | ⟨P, n, hl, hpoints, -⟩ <;>
    rw [hl] at h
  · cases h
  · cases h
  · obtain ⟨rfl, hnone⟩ := landing_eq_free.1 h
    exact ⟨P, n, rfl, hpoints, hnone⟩

theorem makeDirectory_made (hfs : fs.WellFormed) (hp : p.IsNormal) {r : Except Fault Unit}
    (h : makeDirectory p fs = (r, fs')) :
    Made p fs fs' ∧ (r = .ok () → ∃ D, fs'.stat p = .ok (D, .directory)) := by
  unfold makeDirectory at h
  cases hl : fs.locate false p with
  | found place e =>
    rw [hl] at h
    cases h
    exact ⟨.refl p hfs, by simp⟩
  | fault f =>
    rw [hl] at h
    cases h
    exact ⟨.refl p hfs, by simp⟩
  | free place =>
    rw [hl] at h
    cases h
    obtain ⟨P, n, rfl, hpoints, hnone⟩ := points_of_free hl
    have hnamed := hpoints.named hfs hp
    have hset : ∀ q, (fs.set (P ++ [n]) .directory).get? q =
        if q = P ++ [n] then some .directory else fs.get? q := get?_set fs (by simp) .directory
    have hext : fs.Extends (fs.set (P ++ [n]) .directory) := extends_set (by simp) (.inl hnone)
    have hthere : (fs.set (P ++ [n]) .directory).get? (P ++ [n]) = some .directory := by
      rw [hset, if_pos rfl]
    have hstat : (fs.set (P ++ [n]) .directory).stat p = .ok (P ++ [n], .directory) := by
      rw [stat, (hpoints.later hext).locate (by simp [hthere]), landing, hthere]
    refine ⟨⟨hfs.set (hpoints.isDirectory hfs) hnamed.1 hnamed.2 (by simp) (fun _ => rfl), hext,
      fun place => ?_⟩, fun _ => ⟨_, hstat⟩⟩
    by_cases hplace : place = P ++ [n]
    · subst hplace
      exact .inr ⟨hnone, hthere, p.names, List.prefix_rfl, hstat⟩
    · exact .inl (by rw [hset, if_neg hplace])

theorem makeNames_made {anchor : Anchor} {names : List String} (hp : Path.IsNormal ⟨anchor, names⟩)
    (hfs : fs.WellFormed) {existOk : Bool} {r : Except Fault Unit}
    (h : makeNames anchor existOk names fs = (r, fs')) :
    Made ⟨anchor, names⟩ fs fs' ∧
      (r = .ok () → ∃ D, fs'.stat ⟨anchor, names⟩ = .ok (D, .directory)) := by
  induction names using List.reverseRecOn generalizing existOk fs fs' r with
  | nil =>
    rw [makeNames] at h
    split at h
    · rename_i hmake
      cases h
      exact makeDirectory_made hfs hp hmake
    · rename_i hmake
      simp only [dif_pos] at h
      cases h
      exact ⟨(makeDirectory_made hfs hp hmake).1, by simp⟩
    · rename_i hmake
      cases h
      exact ⟨(makeDirectory_made hfs hp hmake).1, fun hr => (settle_eq_ok hr).2⟩
  | append_singleton above n ih =>
    rw [makeNames] at h
    split at h
    · rename_i hmake
      cases h
      exact makeDirectory_made hfs hp hmake
    · rename_i hmake
      have hfirst := (makeDirectory_made hfs hp hmake).1
      rw [dif_neg (by simp), List.dropLast_concat] at h
      have habove : Path.IsNormal ⟨anchor, above⟩ := fun m hm => hp m (by simp_all)
      have hprefix : above <+: above ++ [n] := List.prefix_append _ _
      split at h
      · rename_i hup
        cases h
        have hmade := (ih habove hfirst.wellFormed hup).1
        exact ⟨hfirst.trans (hmade.trans (.refl _ hmade.wellFormed) rfl hprefix) rfl
          List.prefix_rfl, by simp⟩
      · rename_i hup
        have hmade := (ih habove hfirst.wellFormed hup).1
        have hbefore : Made ⟨anchor, above ++ [n]⟩ fs _ :=
          hfirst.trans (hmade.trans (.refl _ hmade.wellFormed) rfl hprefix) rfl List.prefix_rfl
        split at h <;> rename_i hagain <;> cases h
        · have hlast := makeDirectory_made hmade.wellFormed hp hagain
          exact ⟨hbefore.trans hlast.1 rfl List.prefix_rfl, hlast.2⟩
        · have hlast := makeDirectory_made hmade.wellFormed hp hagain
          exact ⟨hbefore.trans hlast.1 rfl List.prefix_rfl, by simp⟩
        · have hlast := makeDirectory_made hmade.wellFormed hp hagain
          exact ⟨hbefore.trans hlast.1 rfl List.prefix_rfl, fun hr => (settle_eq_ok hr).2⟩
    · rename_i hmake
      cases h
      exact ⟨(makeDirectory_made hfs hp hmake).1, fun hr => (settle_eq_ok hr).2⟩

theorem ensureDirectory_made (hfs : fs.WellFormed) (hp : p.IsNormal) {r : Except Fault Unit}
    (h : ensureDirectory p fs = (r, fs')) :
    Made p fs fs' ∧ (r = .ok () → ∃ D, fs'.stat p = .ok (D, .directory)) :=
  makeNames_made hp hfs h

theorem ensureDirectory_of_stat (h : fs.stat p = .ok (D, .directory)) :
    ensureDirectory p fs = (.ok (), fs) := by
  obtain ⟨htakes, hleads⟩ := stat_directory_iff.1 h
  obtain ⟨place, e, hfound⟩ := hleads.found
  have hmake : makeDirectory p fs = (.error .exists, fs) := by
    unfold makeDirectory
    rw [locate_of_takes htakes, hfound]
  have hsettle : settle p true .exists fs = .ok () := by
    unfold settle
    rw [isDirectory?_eq_true.2 ⟨D, h⟩]
    rfl
  rw [ensureDirectory, makeNames]
  have heta : (⟨p.anchor, p.names⟩ : Path) = p := rfl
  rw [heta, hmake]
  simp only [hsettle]

/-! ### One name below a directory -/

/-- An entry was put under a name in a directory, and nothing else was done. -/
structure Puts (P : Place) (n : String) (e : Entry) (fs fs' : Files) : Prop where
  wellFormed : fs'.WellFormed
  later : fs.Extends fs'
  get? : ∀ place, fs'.get? place = if place = P ++ [n] then some e else fs.get? place

theorem puts_set (hfs : fs.WellFormed) (hdir : fs.get? P = some .directory) (hn : Path.IsPlain n)
    (hzero : '\x00' ∉ n.toList) (hlink : ∀ target, e ≠ .link target)
    (h : fs.get? (P ++ [n]) = none ∨ ∃ c c', fs.get? (P ++ [n]) = some (.file c) ∧ e = .file c') :
    Puts P n e fs (fs.set (P ++ [n]) e) := by
  refine ⟨hfs.set hdir hn hzero hlink fun hold => ?_, extends_set (by simp) h, get?_set fs (by simp) e⟩
  rcases h with hnone | ⟨c, c', hfile, -⟩
  · rw [hnone] at hold
    cases hold
  · rw [hfile] at hold
    cases hold

theorem puts_same (hfs : fs.WellFormed) (h : fs.get? (P ++ [n]) = some e) : Puts P n e fs fs := by
  refine ⟨hfs, .refl fs, fun place => ?_⟩
  by_cases hplace : place = P ++ [n]
  · rw [if_pos hplace, hplace, h]
  · rw [if_neg hplace]

theorem write_cases (p : Path) (content : ByteArray) (fs : Files) :
    (∃ f, write p content fs = (.error f, fs)) ∨ ∃ fs', write p content fs = (.ok (), fs') := by
  unfold write
  cases fs.locate true p with
  | found place e => cases e <;> simp
  | free place => simp
  | fault f => simp

theorem write_puts (hfs : fs.WellFormed) (hp : p.IsNormal) (content : ByteArray) :
    (∃ f, write p content fs = (.error f, fs)) ∨
    ∃ P n fs', write p content fs = (.ok (), fs') ∧ Puts P n (.file content) fs fs' ∧
      fs'.stat p = .ok (P ++ [n], .file content) := by
  unfold write
  rcases locate_cases fs true p with
    ⟨f, hl⟩ | ⟨P, hl, -⟩ | ⟨P, n, hl, hpoints, hdir, hlink⟩ <;> rw [hl]
  · exact .inl ⟨f, rfl⟩
  · exact .inl ⟨_, rfl⟩
  · have hnamed := hpoints.named hfs hp
    have hkind : fs.get? (P ++ [n]) = none ∨
        ∃ c c', fs.get? (P ++ [n]) = some (.file c) ∧ Entry.file content = .file c' := by
      cases he : fs.get? (P ++ [n]) with
      | none => exact .inl rfl
      | some e =>
        cases e with
        | directory => exact absurd he hdir
        | file c => exact .inr ⟨c, content, rfl, rfl⟩
        | link target => exact absurd he (hlink rfl target)
    have hputs := puts_set hfs (hpoints.isDirectory hfs) hnamed.1 hnamed.2 (by simp) hkind
    have hthere : (fs.set (P ++ [n]) (.file content)).get? (P ++ [n]) = some (.file content) := by
      rw [hputs.get?, if_pos rfl]
    refine .inr ⟨P, n, fs.set (P ++ [n]) (.file content), ?_, hputs, ?_⟩
    · rcases hkind with hnone | ⟨c, -, hfile, -⟩
      · simp [landing, hnone]
      · simp [landing, hfile]
    · rw [stat, (hpoints.later hputs.later).locate (by simp [hthere]), landing, hthere]

private theorem zero_not_mem (htakes : TakesChild p n) : '\x00' ∉ n.toList :=
  fun h => htakes.1.1 (Path.mem_text (by simp [Path.child]) h)

section
variable (hfs : fs.WellFormed) (hp : fs.stat p = .ok (P, .directory)) (hn : Path.IsPlain n)
  (hlink : ∀ target, fs.get? (P ++ [n]) ≠ some (.link target))
include hfs hp hn hlink

theorem ensureDirectory_lands :
    (∃ f, ensureDirectory (p.child n) fs = (.error f, fs)) ∨
    ∃ fs', ensureDirectory (p.child n) fs = (.ok (), fs') ∧ Puts P n .directory fs fs' ∧
      fs'.stat (p.child n) = .ok (P ++ [n], .directory) := by
  have hdir := isDirectory_of_stat hfs hp
  have heta : (⟨(p.child n).anchor, (p.child n).names⟩ : Path) = p.child n := rfl
  by_cases htakes : TakesChild p n
  · have hl := locate_child hp hn.2.2.2 hlink htakes
    cases he : fs.get? (P ++ [n]) with
    | none =>
      have hmake : makeDirectory (p.child n) fs = (.ok (), fs.set (P ++ [n]) .directory) := by
        unfold makeDirectory
        rw [hl, landing, he]
      have hputs := puts_set hfs hdir hn (zero_not_mem htakes) (e := .directory)
        (by simp) (.inl he)
      refine .inr ⟨_, ?_, hputs, ?_⟩
      · rw [ensureDirectory, makeNames, heta, hmake]
      · have hthere := hputs.get? (P ++ [n])
        rw [if_pos rfl] at hthere
        exact stat_child (stat_directory_extends hp hputs.later) hn.2.2.2 htakes hthere (by simp)
    | some e =>
      have hmake : makeDirectory (p.child n) fs = (.error .exists, fs) := by
        unfold makeDirectory
        rw [hl, landing, he]
      have hstat : fs.stat (p.child n) = .ok (P ++ [n], e) := by
        rw [stat, hl, landing, he]
      by_cases hkind : e = .directory
      · subst hkind
        exact .inr ⟨fs, ensureDirectory_of_stat hstat, puts_same hfs he, hstat⟩
      · refine .inl ⟨.exists, ?_⟩
        rw [ensureDirectory, makeNames, heta, hmake]
        have hno : fs.isDirectory? (p.child n) = .ok false := by
          cases e with
          | directory => exact absurd rfl hkind
          | file c => simp [isDirectory?, hstat, asks]
          | link target => exact absurd he (hlink target)
        simp [settle, hno]
  · obtain ⟨f, hkind, hl⟩ := locate_child_of_not_takes hp hn.2.2.2 hlink htakes
    have hmake : makeDirectory (p.child n) fs = (.error f, fs) := by
      unfold makeDirectory
      rw [hl]
    have hstat : fs.stat (p.child n) = .error f := by
      rw [stat, hl]
    refine .inl ⟨f, ?_⟩
    rw [ensureDirectory, makeNames, heta, hmake]
    rcases hkind with ⟨rfl, -⟩ | rfl
    · simp [settle]
    · simp [settle, isDirectory?, hstat, asks, Fault.isAbsence]

theorem write_lands (hnormal : p.IsNormal) (content : ByteArray) :
    (∃ f, write (p.child n) content fs = (.error f, fs)) ∨
    ∃ fs', write (p.child n) content fs = (.ok (), fs') ∧ Puts P n (.file content) fs fs' := by
  rcases write_puts hfs (hnormal.child hn) content with herror | ⟨Q, m, fs', hwrite, hputs, hstat⟩
  · exact .inl herror
  · have hlink' : ∀ target, fs'.get? (P ++ [n]) ≠ some (.link target) := by
      intro target ht
      rw [hputs.get?] at ht
      split at ht
      · cases ht
      · exact hlink target ht
    obtain ⟨-, hplace, -⟩ :=
      stat_child_inv (stat_directory_extends hp hputs.later) hn.2.2.2 hlink' hstat
    obtain ⟨rfl, hname⟩ := List.append_inj' hplace rfl
    obtain rfl : m = n := by simpa using hname
    exact .inr ⟨fs', hwrite, hputs⟩

end

/-! ### Changes in one directory -/

/-- All changes are at a place or below it, and none of them makes a link. -/
structure Grown (P : Place) (fs fs' : Files) : Prop where
  wellFormed : fs'.WellFormed
  later : fs.Extends fs'
  links : ∀ {place : Place} {target : String},
    fs'.get? place = some (.link target) → fs.get? place = some (.link target)
  outside : ∀ place, ¬ P <+: place → fs'.get? place = fs.get? place

theorem Grown.refl (P : Place) (hfs : fs.WellFormed) : Grown P fs fs :=
  ⟨hfs, .refl fs, id, fun _ _ => rfl⟩

theorem Grown.trans (h : Grown P fs fs') (h' : Grown P fs' fs'') : Grown P fs fs'' :=
  ⟨h'.wellFormed, h.later.trans h'.later, fun hl => h.links (h'.links hl),
    fun place hout => (h'.outside place hout).trans (h.outside place hout)⟩

theorem Grown.mono {Q : Place} (h : Grown Q fs fs') (hPQ : P <+: Q) : Grown P fs fs' :=
  ⟨h.wellFormed, h.later, h.links, fun place hout => h.outside place fun hQ => hout (hPQ.trans hQ)⟩

theorem Grown.linkFree (h : Grown P fs fs') {place : Place} (hfree : fs.LinkFree place) :
    fs'.LinkFree place :=
  fun rel target hl => hfree rel target (h.links hl)

theorem Puts.grown (h : Puts P n e fs fs') (hlink : ∀ target, e ≠ .link target) :
    Grown P fs fs' := by
  refine ⟨h.wellFormed, h.later, fun {place target} hl => ?_, fun place hout => ?_⟩
  · rw [h.get?] at hl
    split at hl
    · exact absurd (Option.some.inj hl) (hlink target)
    · exact hl
  · have hplace : place ≠ P ++ [n] := fun heq => hout (heq ▸ List.prefix_append P [n])
    rw [h.get?, if_neg hplace]

theorem copy_cases (source target : Path) (fs : Files) :
    (∃ f, copy source target fs = (.error f, fs)) ∨
    ∃ content, fs.read source = .ok content ∧
      copy source target fs = write target content fs := by
  generalize hr : copy source target fs = r
  unfold copy at hr
  rcases ite_eq_iff.1 hr with ⟨-, hr⟩ | ⟨-, hr⟩
  · exact .inl ⟨_, hr.symm⟩
  · cases hread : fs.read source with
    | error f =>
      rw [hread] at hr
      exact .inl ⟨f, hr.symm⟩
    | ok content =>
      rw [hread] at hr
      exact .inr ⟨content, rfl, hr.symm⟩

end Scaffold.Files
