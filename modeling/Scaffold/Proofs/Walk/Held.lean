import Scaffold.Proofs.Files.Way
import Scaffold.Proofs.Walk.Account

set_option autoImplicit false

/-!
# What a source holds

What a source holds is told by paths: a link in it is followed, wherever it leads. If nothing that
paths below the source pass has changed at the end of a walk, then at every moment of the walk the
source held what it held before, and the entries that the walk comes to are among these.
-/
namespace Scaffold
open Files

variable {fs mid fs' : Files} {source p : Path} {P S : Place} {rel above : List String} {n : String}
  {isDirectory : Bool}

namespace Files

/-! ### What a source holds -/

/-- The path leads to a directory with an entry of this name, and one name further to a directory or
not. -/
def Shows (fs : Files) (p : Path) (n : String) (isDirectory : Bool) : Prop :=
  ∃ P, fs.stat p = .ok (P, .directory) ∧ n ∈ fs.names P ∧
    (isDirectory = true ↔ ∃ Q, fs.stat (p.child n) = .ok (Q, .directory))

inductive Holds (fs : Files) (source : Path) : List String → Bool → Prop
  | top {n : String} {isDirectory : Bool} :
    fs.Shows source n isDirectory → Holds fs source [n] isDirectory
  | inside {above : List String} {n : String} {isDirectory : Bool} :
    Holds fs source above true → fs.Shows (source.under above) n isDirectory →
    Holds fs source (above ++ [n]) isDirectory

theorem Shows.isPlain (h : fs.Shows p n isDirectory) (hfs : fs.WellFormed) : Path.IsPlain n := by
  obtain ⟨P, -, hn, -⟩ := h
  obtain ⟨e, he⟩ := (mem_names fs P n).1 hn
  exact (hfs.named he).1

theorem Holds.isPlain (h : fs.Holds source rel isDirectory) (hfs : fs.WellFormed) :
    ∀ m ∈ rel, Path.IsPlain m := by
  induction h with
  | top hn => simpa using hn.isPlain hfs
  | inside _ hn ih => exact Path.isPlain_concat ih (hn.isPlain hfs)

theorem holds_concat : fs.Holds source (above ++ [n]) isDirectory ↔
    (above = [] ∨ fs.Holds source above true) ∧ fs.Shows (source.under above) n isDirectory := by
  constructor
  · intro h
    generalize hrel : above ++ [n] = rel at h
    cases h with
    | top hn =>
      obtain ⟨rfl, hlast⟩ := List.append_inj' (hrel.trans (List.nil_append _).symm) rfl
      obtain rfl : n = _ := by simpa using hlast
      exact ⟨.inl rfl, by rwa [Path.under_nil]⟩
    | inside habove hn =>
      obtain ⟨rfl, hlast⟩ := List.append_inj' hrel rfl
      obtain rfl : n = _ := by simpa using hlast
      exact ⟨.inr habove, hn⟩
  · rintro ⟨rfl | habove, hn⟩
    · rw [Path.under_nil] at hn
      exact .top hn
    · exact .inside habove hn

theorem Holds.ne_nil (h : fs.Holds source rel isDirectory) : rel ≠ [] := by
  cases h <;> simp

theorem Holds.get? (h : fs.Holds source rel isDirectory) (hfs : fs.WellFormed)
    (hsource : fs.stat source = .ok (S, .directory)) (hlink : fs.LinkFree S) :
    ∃ e, fs.get? (S ++ rel) = some e := by
  obtain ⟨above, n, rfl⟩ := (List.eq_nil_or_concat' rel).resolve_left h.ne_nil
  have hup : ".." ∉ above := fun hmem => (h.isPlain hfs ".." (by simp [hmem])).2.2.2 rfl
  obtain ⟨-, P, hP, hn, -⟩ := holds_concat.1 h
  obtain rfl : P = S ++ above := by
    by_cases habove : above = []
    · rw [habove, Path.under_nil] at hP
      cases hsource.symm.trans hP
      simp [habove]
    · exact stat_under hsource hlink hup habove hP
  rw [← List.append_assoc]
  exact (mem_names fs _ n).1 hn

/-! ### Where nothing on the way has changed -/

/-- The tree has more than before, but nothing that a path below the source passes has changed. -/
structure Spares (source : Path) (fs fs' : Files) : Prop where
  wellFormed : fs'.WellFormed
  later : fs.Extends fs'
  passed : ∀ rel q, (∀ m ∈ rel, Path.IsPlain m) →
    fs.Passes q linkLimit (fs.start source) (source.names ++ rel) → fs'.get? q = fs.get? q

namespace Spares
variable (h : Spares source fs fs') (hext : fs.Extends mid) (hext' : mid.Extends fs')
  (hrel : ∀ m ∈ rel, Path.IsPlain m)
include h hrel

theorem alike : Alike fs fs' (source.under rel) :=
  ⟨h.later.current, fun q hq => h.passed rel q hrel hq⟩

include hext hext'

theorem stat_iff :
    mid.stat (source.under rel) = .ok (P, .directory) ↔
      fs.stat (source.under rel) = .ok (P, .directory) := by
  constructor
  · intro hmid
    have hend := stat_directory_extends hmid hext'
    rwa [stat_congr (h.alike hrel)] at hend
  · exact fun hstat => stat_directory_extends hstat hext

theorem mem_names_iff (hP : fs.stat (source.under rel) = .ok (P, .directory)) :
    n ∈ mid.names P ↔ n ∈ fs.names P := by
  rw [mem_names, mem_names]
  constructor
  · rintro ⟨e, he⟩
    obtain ⟨e', he', -⟩ := hext'.there he
    have hpasses := (stat_directory_iff.1 hP).2.passes (h.wellFormed.named he').1.2.2.2
    have hstart : fs.start (source.under rel) = fs.start source := rfl
    rw [hstart, Path.under, List.append_assoc] at hpasses
    rw [h.passed _ _ (Path.isPlain_concat hrel (h.wellFormed.named he').1) hpasses] at he'
    exact ⟨e', he'⟩
  · rintro ⟨e, he⟩
    obtain ⟨e', he', -⟩ := hext.there he
    exact ⟨e', he'⟩

theorem shows_iff :
    mid.Shows (source.under rel) n isDirectory ↔ fs.Shows (source.under rel) n isDirectory := by
  have hchild : ∀ {P : Place}, n ∈ fs.names P →
      ((∃ Q, mid.stat ((source.under rel).child n) = .ok (Q, .directory)) ↔
        ∃ Q, fs.stat ((source.under rel).child n) = .ok (Q, .directory)) := by
    intro P hn
    obtain ⟨e, he⟩ := (mem_names fs P n).1 hn
    obtain ⟨e', he', -⟩ := h.later.there he
    rw [← Path.under_concat]
    exact exists_congr fun Q =>
      h.stat_iff hext hext' (Path.isPlain_concat hrel (h.wellFormed.named he').1)
  constructor
  · rintro ⟨P, hP, hn, hkind⟩
    rw [h.stat_iff hext hext' hrel] at hP
    rw [h.mem_names_iff hext hext' hrel hP] at hn
    exact ⟨P, hP, hn, hkind.trans (hchild hn)⟩
  · rintro ⟨P, hP, hn, hkind⟩
    exact ⟨P, stat_directory_extends hP hext, (h.mem_names_iff hext hext' hrel hP).2 hn,
      hkind.trans (hchild hn).symm⟩

end Spares

end Files

namespace Walk

variable {w : Walk} {vs : List (List String × Bool)} {es : List (String × Bool)}

theorem mem_listed_iff (hlist : listEntries fs p = .ok es) :
    (n, isDirectory) ∈ es ↔ fs.Shows p n isDirectory := by
  obtain ⟨P, hP, hnames, hkinds⟩ := listEntries_eq_ok hlist
  have hkind : ∀ e ∈ es, e.2 = true ↔ ∃ Q, fs.stat (p.child e.1) = .ok (Q, .directory) := by
    intro e he
    rw [← isDirectory?_eq_true, hkinds e he]
    simp
  constructor
  · intro he
    exact ⟨P, hP, hnames ▸ List.mem_map_of_mem he, hkind _ he⟩
  · rintro ⟨Q, hQ, hn, hdir⟩
    obtain rfl : Q = P := by
      have hplace := hQ.symm.trans hP
      cases hplace
      rfl
    rw [← hnames] at hn
    obtain ⟨e, he, rfl⟩ := List.mem_map.1 hn
    have hsame : e.2 = isDirectory := Bool.eq_iff_iff.2 ((hkind e he).trans hdir.symm)
    rwa [← hsame]

/-- A tour of a source that is spared comes to the entries that it holds, past the directories that
do not fit the selection. -/
theorem Tour.mem_iff (h : w.Tour source fs fs' vs) (hspares : Spares source fs fs')
    (hfs : fs.WellFormed) :
    (rel, isDirectory) ∈ vs ↔
      fs.Holds source rel isDirectory ∧ ∀ m ∈ rel.dropLast, w.includes (m, true) = true := by
  induction rel using List.reverseRecOn generalizing isDirectory with
  | nil =>
    exact iff_of_false (fun hmem => (h.inside _ hmem).1 rfl) fun hholds => hholds.1.ne_nil rfl
  | append_singleton above n ih =>
    have hentered : w.Entered vs above ↔ (above = [] ∨ fs.Holds source above true) ∧
        ∀ m ∈ above, w.includes (m, true) = true := by
      obtain rfl | ⟨up, m, rfl⟩ := List.eq_nil_or_concat' above
      · simp [Entered]
      · rw [Entered, ih]
        simp [takes, lastName_concat, or_imp, forall_and, and_assoc]
    -- Whenever the directory was listed, it had the entries that it had at first.
    have hlisted : w.Entered vs above →
        ((above ++ [n], isDirectory) ∈ vs ↔ fs.Shows (source.under above) n isDirectory) := by
      intro hup
      obtain ⟨mid, es, hext, hext', hlist, hiff⟩ := h.listed above hup
      have hplain : ∀ m ∈ above, Path.IsPlain m := by
        rcases (hentered.1 hup).1 with rfl | hholds
        · simp
        · exact hholds.isPlain hfs
      rw [hiff, mem_listed_iff hlist, hspares.shows_iff hext hext' hplain]
    rw [holds_concat, List.dropLast_concat]
    constructor
    · intro hmem
      have hup := (h.inside _ hmem).2
      rw [List.dropLast_concat] at hup
      exact ⟨⟨(hentered.1 hup).1, (hlisted hup).1 hmem⟩, (hentered.1 hup).2⟩
    · rintro ⟨⟨habove, hshows⟩, hin⟩
      exact (hlisted (hentered.2 ⟨habove, hin⟩)).2 hshows

end Walk
end Scaffold
