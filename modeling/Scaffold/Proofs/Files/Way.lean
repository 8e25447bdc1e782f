import Scaffold.Proofs.Files.Make

set_option autoImplicit false

/-!
# Trees that are alike on the way of a path

Following a path looks at the places that it passes and at no others. Two trees that have the same
entries there are the same to all that is done at the path: it ends alike, and what it leaves behind
is the same in both, whatever else there is in one tree or in the other.
-/
namespace Scaffold.Files

variable {f f' g g' : Files} {links : Nat} {at_ place q : Place} {names : List String} {p : Path}

/-! ### The places that a path passes -/

/-- Following names looks at this place, where what is missing counts as a directory to be made. -/
inductive Passes (fs : Files) (q : Place) : Nat → Place → List String → Prop
  | here {links : Nat} {at_ : Place} {n : String} {rest : List String} :
    n ≠ ".." → at_ ++ [n] = q → Passes fs q links at_ (n :: rest)
  | up {links : Nat} {at_ : Place} {rest : List String} :
    Passes fs q links at_.dropLast rest → Passes fs q links at_ (".." :: rest)
  | into {links : Nat} {at_ : Place} {n : String} {rest : List String} :
    n ≠ ".." → fs.get? (at_ ++ [n]) = none ∨ fs.get? (at_ ++ [n]) = some .directory →
    Passes fs q links (at_ ++ [n]) rest → Passes fs q links at_ (n :: rest)
  | link {links : Nat} {at_ : Place} {n target : String} {rest : List String} :
    n ≠ ".." → fs.get? (at_ ++ [n]) = some (.link target) → target ≠ "" →
    Passes fs q links (if (Path.ofText target).isAbsolute then [] else at_)
      ((Path.ofText target).names ++ rest) →
    Passes fs q (links + 1) at_ (n :: rest)

theorem Passes.more (h : f.Passes q links at_ names) (more : List String) :
    f.Passes q links at_ (names ++ more) := by
  induction h with
  | here hup hq => exact .here hup hq
  | up _ ih => exact .up ih
  | into hup hdir _ ih => exact .into hup hdir ih
  | link hup hlink htarget _ ih =>
    rw [List.append_assoc] at ih
    exact .link hup hlink htarget ih

theorem Passes.earlier (h : f'.Passes q links at_ names)
    (hmade : ∀ place, f'.get? place = f.get? place ∨
      f.get? place = none ∧ f'.get? place = some .directory) : f.Passes q links at_ names := by
  induction h with
  | here hup hq => exact .here hup hq
  | up _ ih => exact .up ih
  | @into links at_ n rest hup hdir _ ih =>
    refine .into hup ?_ ih
    rcases hmade (at_ ++ [n]) with hsame | ⟨hnone, -⟩
    · rwa [← hsame]
    · exact .inl hnone
  | @link links at_ n target rest hup hlink htarget _ ih =>
    rcases hmade (at_ ++ [n]) with hsame | ⟨-, hdir⟩
    · exact .link hup (hsame ▸ hlink) htarget ih
    · rw [hlink] at hdir
      cases hdir

theorem Leads.passes {P : Place} {n : String} (h : f.Leads [] links at_ names P) (hup : n ≠ "..") :
    f.Passes (P ++ [n]) links at_ (names ++ [n]) := by
  induction h with
  | here => exact .here hup rfl
  | up _ ih => exact .up ih
  | into hdots _ hdir _ ih => exact .into hdots (.inr hdir) ih
  | link hdots _ hlink htarget _ ih =>
    rw [List.append_assoc] at ih
    exact .link hdots hlink htarget ih

/-- Names that lead to a directory pass what is there, and from it what the names left over pass. -/
theorem Passes.beyond {P : Place} {left : List String} (h : f.Passes q links at_ names)
    (hleads : f.Leads left links at_ names P) :
    (∃ e, f.get? q = some e) ∨ ∃ fewer, f.Passes q fewer P left := by
  induction hleads with
  | here => exact .inr ⟨_, h⟩
  | up _ ih =>
    cases h with
    | here hup => exact absurd rfl hup
    | up h => exact ih h
    | into hup => exact absurd rfl hup
    | link hup => exact absurd rfl hup
  | into hup _ hdir _ ih =>
    cases h with
    | here _ hq => exact .inl ⟨_, hq ▸ hdir⟩
    | up => exact absurd rfl hup
    | into _ _ h => exact ih h
    | link _ hlink =>
      rw [hdir] at hlink
      cases hlink
  | link hup _ hlink _ _ ih =>
    cases h with
    | here _ hq => exact .inl ⟨_, hq ▸ hlink⟩
    | up => exact absurd rfl hup
    | into _ hdir =>
      rw [hlink] at hdir
      rcases hdir with hdir | hdir <;> cases hdir
    | link _ hlink' _ h =>
      rw [hlink] at hlink'
      cases hlink'
      exact ih h

theorem Passes.down (h : f.Passes q links at_ names) (hlink : f.LinkFree at_) (hup : ".." ∉ names) :
    at_ <+: q := by
  induction h with
  | here _ hq => exact hq ▸ List.prefix_append _ _
  | up => simp at hup
  | @into links at_ n rest _ _ _ ih =>
    have hbelow : f.LinkFree (at_ ++ [n]) := fun rel target => by
      rw [List.append_assoc]
      exact hlink _ target
    exact (List.prefix_append _ _).trans (ih hbelow fun hmem => hup (List.mem_cons_of_mem _ hmem))
  | @link links at_ n target rest _ hentry => exact absurd hentry (hlink [n] target)

theorem walkNames_congr (h : ∀ q, f.Passes q links at_ names → g.get? q = f.get? q)
    (follow : Bool) :
    g.walkNames follow links at_ names = f.walkNames follow links at_ names := by
  -- Behind a link there may be more names than before, but fewer links are left to follow.
  induction links using Nat.strongRecOn generalizing at_ names with
  | _ links fewer_links =>
    induction names generalizing at_ with
    | nil => rw [walkNames_nil, walkNames_nil]
    | cons n rest ih =>
      by_cases hup : n = ".."
      · subst hup
        rw [walkNames_up, walkNames_up]
        exact ih fun q hq => h q (.up hq)
      rw [walkNames_into _ _ _ _ _ hup, walkNames_into _ _ _ _ _ hup, h _ (.here hup rfl)]
      have hon : f.get? (at_ ++ [n]) = some .directory →
          g.walkNames follow links (at_ ++ [n]) rest = f.walkNames follow links (at_ ++ [n]) rest :=
        fun hdir => ih fun q hq => h q (.into hup (.inr hdir) hq)
      split
      · rfl
      cases he : f.get? (at_ ++ [n]) with
      | none => rfl
      | some e =>
        cases e with
        | directory => exact hon he
        | file c => rfl
        | link target =>
          simp only [meet]
          split
          · rfl
          cases links with
          | zero => rfl
          | succ fewer =>
            by_cases htarget : target = ""
            · simp only [beyondLink, htarget, if_true]
            · simp only [beyondLink, htarget, if_false]
              exact fewer_links fewer (by omega) fun q hq => h q (.link hup he htarget hq)

/-! ### Alike on the way -/

/-- Two trees have the same entries at all places that a path passes. -/
structure Alike (f g : Files) (p : Path) : Prop where
  current : g.current = f.current
  passed : ∀ q, f.Passes q linkLimit (f.start p) p.names → g.get? q = f.get? q

theorem Same.alike (h : f.Same g) (p : Path) : Alike f g p := ⟨h.current, fun q _ => h.get? q⟩

theorem Alike.above {anchor : Anchor} {more : List String} (h : Alike f g ⟨anchor, names ++ more⟩) :
    Alike f g ⟨anchor, names⟩ :=
  ⟨h.current, fun q hq => h.passed q (hq.more more)⟩

section
variable (h : Alike f g p)
include h

theorem locate_congr (follow : Bool) : g.locate follow p = f.locate follow p := by
  have hwalk := walkNames_congr h.passed follow
  unfold start at hwalk
  unfold locate
  rw [h.current, hwalk]

theorem stat_congr : g.stat p = f.stat p := by
  rw [stat, stat, locate_congr h]

theorem exists?_congr : g.exists? p = f.exists? p := by
  rw [exists?, exists?, stat_congr h]

theorem isDirectory?_congr : g.isDirectory? p = f.isDirectory? p := by
  rw [isDirectory?, isDirectory?, stat_congr h]

theorem isFile?_congr : g.isFile? p = f.isFile? p := by
  rw [isFile?, isFile?, stat_congr h]

theorem read_congr : g.read p = f.read p := by
  rw [read, read, stat_congr h]

theorem settle_congr (existOk : Bool) (fault : Fault) :
    settle p existOk fault g = settle p existOk fault f := by
  unfold settle
  rw [isDirectory?_congr h]

end

/-! ### Changes side by side -/

/-- Each place is left alone in both trees, or has come out the same in both. -/
def Beside (f g f' g' : Files) : Prop :=
  ∀ place, f'.get? place = f.get? place ∧ g'.get? place = g.get? place ∨
    g'.get? place = f'.get? place

theorem Beside.refl (f g : Files) : Beside f g f g := fun _ => .inl ⟨rfl, rfl⟩

theorem Beside.trans {f'' g'' : Files} (h : Beside f g f' g') (h' : Beside f' g' f'' g'') :
    Beside f g f'' g'' := by
  intro place
  rcases h' place with ⟨hf', hg'⟩ | hsame
  · rcases h place with ⟨hf, hg⟩ | hsame
    · exact .inl ⟨hf'.trans hf, hg'.trans hg⟩
    · exact .inr (by rw [hf', hg', hsame])
  · exact .inr hsame

theorem Beside.same (h : Beside f g f' g') (hplace : g.get? place = f.get? place) :
    g'.get? place = f'.get? place := by
  rcases h place with ⟨hf, hg⟩ | hsame
  · rw [hf, hg, hplace]
  · exact hsame

theorem Puts.beside {P : Place} {n : String} {e : Entry} (hf : Puts P n e f f')
    (hg : Puts P n e g g') : Beside f g f' g' := by
  intro place
  rw [hf.get?, hg.get?]
  by_cases hplace : place = P ++ [n]
  · exact .inr (by rw [if_pos hplace, if_pos hplace])
  · exact .inl (by rw [if_neg hplace, if_neg hplace]; exact ⟨rfl, rfl⟩)

/-- A change comes to the same in both trees, and they stay as far alike as they are. -/
structure Parallel {α : Type} (p : Path) (f g : Files) (x y : Except Fault α × Files) : Prop where
  result : y.1 = x.1
  beside : Beside f g x.2 y.2
  left : Made p f x.2
  right : Made p g y.2

theorem Parallel.alike {α : Type} {x y : Except Fault α × Files} (h : Parallel p f g x y) {a : Path}
    (halike : Alike f g a) : Alike x.2 y.2 a := by
  have hcurrent : y.2.current = x.2.current := by
    rw [h.right.later.current, h.left.later.current, halike.current]
  refine ⟨hcurrent, fun q hq => h.beside.same (halike.passed q ?_)⟩
  have hstart : x.2.start a = f.start a := by
    unfold start
    rw [h.left.later.current]
  rw [hstart] at hq
  exact hq.earlier fun place => (h.left.change place).imp_right fun hmade => ⟨hmade.1, hmade.2.1⟩

theorem makeDirectory_parallel (hf : f.WellFormed) (hg : g.WellFormed) (hp : p.IsNormal)
    (h : Alike f g p) : Parallel p f g (makeDirectory p f) (makeDirectory p g) := by
  have hleft := (makeDirectory_made hf hp rfl).1
  have hright := (makeDirectory_made hg hp rfl).1
  suffices hboth : (makeDirectory p g).1 = (makeDirectory p f).1 ∧
      Beside f g (makeDirectory p f).2 (makeDirectory p g).2 from
    ⟨hboth.1, hboth.2, hleft, hright⟩
  unfold makeDirectory
  rw [locate_congr h]
  cases hl : f.locate false p with
  | found place e => exact ⟨rfl, .refl f g⟩
  | fault fault => exact ⟨rfl, .refl f g⟩
  | free place =>
    obtain ⟨P, n, rfl, -⟩ := points_of_free hl
    refine ⟨rfl, fun q => ?_⟩
    rw [get?_set f (by simp), get?_set g (by simp)]
    by_cases hq : q = P ++ [n]
    · exact .inr (by rw [if_pos hq, if_pos hq])
    · exact .inl (by rw [if_neg hq, if_neg hq]; exact ⟨rfl, rfl⟩)

theorem Parallel.exists_eq {α : Type} {x y : Except Fault α × Files} {r : Except Fault α}
    (h : Parallel p f g x y) (hx : x = (r, f')) : ∃ g', y = (r, g') ∧ Parallel p f g (r, f') (r, g') := by
  subst hx
  have hy : y = (r, y.2) := Prod.ext h.result rfl
  exact ⟨y.2, hy, by rw [← hy]; exact h⟩

theorem Parallel.same {α : Type} {x y : Except Fault α × Files} (h : Parallel p f g x y)
    (hsame : f.Same g) : x.2.Same y.2 := by
  refine ⟨?_, fun q => h.beside.same (hsame.get? q)⟩
  rw [h.right.later.current, h.left.later.current, hsame.current]

theorem Parallel.trans {α β : Type} {a : Path} {r : Except Fault α} {x y : Except Fault β × Files}
    (h : Parallel a f g (r, f') (r, g')) (h' : Parallel p f' g' x y) (hanchor : a.anchor = p.anchor)
    (hnames : a.names <+: p.names) : Parallel p f g x y where
  result := h'.result
  beside := h.beside.trans h'.beside
  left := h.left.trans h'.left hanchor hnames
  right := h.right.trans h'.right hanchor hnames

theorem Parallel.widen {α : Type} {a : Path} {r : Except Fault α}
    (h : Parallel a f g (r, f') (r, g')) (hanchor : a.anchor = p.anchor) (hnames : a.names <+: p.names) :
    Parallel p f g (r, f') (r, g') where
  result := rfl
  beside := h.beside
  left := h.left.trans (.refl p h.left.wellFormed) hanchor hnames
  right := h.right.trans (.refl p h.right.wellFormed) hanchor hnames

/-! ### Directories with those above them -/

def concluded (p : Path) (existOk : Bool) : Except Fault Unit × Files → Except Fault Unit × Files
  | (.ok (), fs) => (.ok (), fs)
  | (.error .notFound, fs) => (.error .notFound, fs)
  | (.error fault, fs) => (settle p existOk fault fs, fs)

theorem makeNames_nil (anchor : Anchor) (existOk : Bool) (f : Files) :
    makeNames anchor existOk [] f =
      concluded ⟨anchor, []⟩ existOk (makeDirectory ⟨anchor, []⟩ f) := by
  rw [makeNames]
  rcases makeDirectory ⟨anchor, []⟩ f with ⟨fault | ⟨⟩, f₁⟩
  · cases fault <;> rfl
  · rfl

theorem makeNames_concat (anchor : Anchor) (existOk : Bool) (above : List String) (n : String)
    (f : Files) :
    makeNames anchor existOk (above ++ [n]) f =
      match makeDirectory ⟨anchor, above ++ [n]⟩ f with
      | (.error .notFound, f₁) =>
        match makeNames anchor true above f₁ with
        | (.error fault, f₂) => (.error fault, f₂)
        | (.ok (), f₂) =>
          concluded ⟨anchor, above ++ [n]⟩ existOk (makeDirectory ⟨anchor, above ++ [n]⟩ f₂)
      | done => concluded ⟨anchor, above ++ [n]⟩ existOk done := by
  rw [makeNames]
  rcases makeDirectory ⟨anchor, above ++ [n]⟩ f with ⟨fault | ⟨⟩, f₁⟩
  · cases fault
    case notFound =>
      simp only [List.append_eq_nil_iff, List.cons_ne_self, and_false, dif_neg, not_false_eq_true,
        List.dropLast_concat]
      rcases makeNames anchor true above f₁ with ⟨fault | ⟨⟩, f₂⟩
      · rfl
      · rcases makeDirectory ⟨anchor, above ++ [n]⟩ f₂ with ⟨fault | ⟨⟩, f₃⟩
        · cases fault <;> rfl
        · rfl
    all_goals rfl
  · rfl

theorem Parallel.concluded {r : Except Fault Unit} (h : Parallel p f g (r, f') (r, g'))
    (halike : Alike f g p) (existOk : Bool) :
    Parallel p f g (concluded p existOk (r, f')) (Files.concluded p existOk (r, g')) := by
  have hsettle : ∀ fault, Parallel p f g (settle p existOk fault f', f')
      (settle p existOk fault g', g') := fun fault =>
    ⟨settle_congr (h.alike halike) existOk fault, h.beside, h.left, h.right⟩
  rcases r with fault | ⟨⟩
  · cases fault
    case notFound => exact h
    all_goals exact hsettle _
  · exact h

theorem makeNames_parallel {anchor : Anchor} (hp : Path.IsNormal ⟨anchor, names⟩)
    (hf : f.WellFormed) (hg : g.WellFormed) (h : Alike f g ⟨anchor, names⟩) (existOk : Bool) :
    Parallel ⟨anchor, names⟩ f g (makeNames anchor existOk names f)
      (makeNames anchor existOk names g) := by
  induction names using List.reverseRecOn generalizing existOk f g with
  | nil =>
    rw [makeNames_nil, makeNames_nil]
    rcases hx : makeDirectory ⟨anchor, []⟩ f with ⟨r, f₁⟩
    obtain ⟨g₁, hy, hboth⟩ := (makeDirectory_parallel hf hg hp h).exists_eq hx
    rw [hy]
    exact hboth.concluded h existOk
  | append_singleton above n ih =>
    rw [makeNames_concat, makeNames_concat]
    rcases hx : makeDirectory ⟨anchor, above ++ [n]⟩ f with ⟨r, f₁⟩
    obtain ⟨g₁, hy, hboth⟩ := (makeDirectory_parallel hf hg hp h).exists_eq hx
    rw [hy]
    by_cases hmissing : r = .error .notFound
    · subst hmissing
      have habove : Path.IsNormal ⟨anchor, above⟩ := fun m hm => hp m (by simp_all)
      have halike : Alike f₁ g₁ ⟨anchor, above ++ [n]⟩ := hboth.alike h
      have hmake := ih habove hboth.left.wellFormed hboth.right.wellFormed halike.above true
      rcases hx : makeNames anchor true above f₁ with ⟨r, f₂⟩
      obtain ⟨g₂, hy, hup⟩ := hmake.exists_eq hx
      have hbefore : Parallel ⟨anchor, above ++ [n]⟩ f g (r, f₂) (r, g₂) :=
        hboth.trans (hup.widen rfl (List.prefix_append _ _)) rfl List.prefix_rfl
      simp only [hx, hy]
      rcases r with fault | ⟨⟩
      · exact hbefore
      · have halike : Alike f₂ g₂ ⟨anchor, above ++ [n]⟩ := hbefore.alike h
        rcases hx : makeDirectory ⟨anchor, above ++ [n]⟩ f₂ with ⟨r, f₃⟩
        obtain ⟨g₃, hy, hlast⟩ := (makeDirectory_parallel hup.left.wellFormed hup.right.wellFormed hp
          halike).exists_eq hx
        change Parallel _ f g (Files.concluded _ existOk (makeDirectory _ f₂))
          (Files.concluded _ existOk (makeDirectory _ g₂))
        rw [hx, hy]
        exact (hbefore.trans hlast rfl List.prefix_rfl).concluded h existOk
    · have hdone := hboth.concluded h existOk
      rcases r with fault | ⟨⟩
      · cases fault
        case notFound => exact absurd rfl hmissing
        all_goals exact hdone
      · exact hdone

theorem ensureDirectory_parallel (hp : p.IsNormal) (hf : f.WellFormed) (hg : g.WellFormed)
    (h : Alike f g p) : Parallel p f g (ensureDirectory p f) (ensureDirectory p g) :=
  makeNames_parallel hp hf hg h true

end Scaffold.Files
