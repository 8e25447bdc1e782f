import Scaffold.Proofs.Walk.Account

set_option autoImplicit false

/-!
# Walking again

What a walk has made of its destination does not stand in the way of the same walk. The second
time each visit goes as well as the first, over what is there by then: a directory that was made is
found, a file that was written is written over. So the second walk comes to its end, it reports
what the first one did, and the last file to come out at a place is the same.

This takes templates that come out the second time as they did the first, which those do that
neither draw random numbers nor change the values they are handed.
-/
namespace Scaffold.Walk
open Files

variable {f f' fs₁ g g' e : Files} {source dest here out : Path} {S D P Q : Place} {w : Walk}
  {r r' r₁ : Report} {vs front back : List (List String × Bool)} {v : List String × Bool} {n : String}
  {later : Template.Engine}

/-! ### The same templates again -/

/-- The walk at another time, when templates draw other numbers and find what was changed before. -/
def withEngine (w : Walk) (later : Template.Engine) : Walk := { w with engine := later }

/-- The templates that a walk fills in come out another time as they do this time. -/
def FillsAlike (w : Walk) (later : Template.Engine) (fs : Files) (source : Path) (S : Place) : Prop :=
  ∀ rel bytes text context, w.Live rel false →
    FileName.isRendered w.vocabulary (lastName rel) = true →
    fs.get? (S ++ rel) = some (.file bytes) → Text.ofBytes bytes = .ok text →
    w.renderer.context w.bindings (some w.selection) = .ok context →
    later.fill (some (source.under rel).text) none text context =
      w.engine.fill (some (source.under rel).text) none text context

theorem FillsAlike.congr (h : w.FillsAlike later f source S)
    (hsame : ∀ rel, g.get? (S ++ rel) = f.get? (S ++ rel)) : w.FillsAlike later g source S := by
  intro rel bytes text context hlive hrendered hbytes
  rw [hsame] at hbytes
  exact h rel bytes text context hlive hrendered hbytes

theorem yields_by (halike : w.FillsAlike later g source S) (hrenderer : w.renderer.directory = none)
    {rel : List String} {bytes : ByteArray} (hrel : rel ≠ []) (hlive : w.Live rel false)
    (hread : g.read (source.under rel) = .ok bytes) (hbytes : g.get? (S ++ rel) = some (.file bytes))
    (c : ByteArray) :
    (w.withEngine later).Yields g (source.under rel) c ↔ w.Yields g (source.under rel) c := by
  by_cases hrendered : FileName.isRendered w.vocabulary (lastName rel) = true
  · have hfill : w.renderer.renderFileBy later g (source.under rel) w.bindings (some w.selection) =
        w.renderer.renderFileBy w.engine g (source.under rel) w.bindings (some w.selection) := by
      simp only [Template.Renderer.renderFileBy, hread]
      cases htext : Text.ofBytes bytes with
      | error e => rfl
      | ok text =>
        simp only [Template.Renderer.renderBy, loader_eq_none hrenderer]
        cases hcontext : w.renderer.context w.bindings (some w.selection) with
        | error f => rfl
        | ok context =>
          exact congrArg (Except.mapError _)
            (halike rel bytes text context hlive hrendered hbytes htext hcontext)
    simp only [Yields, withEngine, hfill]
  · have hcopied : FileName.isRendered w.vocabulary (source.under rel).name = false := by
      rw [name_under hrel]
      exact Bool.eq_false_iff.2 hrendered
    simp [Yields, withEngine, hcopied]

/-! ### One visit -/

theorem listEntries_again (hf : f.WellFormed) (hg : g.WellFormed) (hext : f.Extends g)
    (hhere : f.stat here = .ok (Q, .directory)) (hlink : f.LinkFree Q)
    (hsame : ∀ n, g.get? (Q ++ [n]) = f.get? (Q ++ [n])) :
    listEntries g here = listEntries f here := by
  have hhere' := stat_directory_extends hhere hext
  refine listEntries_congr hhere hhere' (names_congr hf hg fun n => by rw [hsame]) fun n hn => ?_
  obtain ⟨x, hx⟩ := (mem_names f Q n).1 hn
  have hup : n ≠ ".." := (hf.named hx).1.2.2.2
  have hfree : ∀ target, f.get? (Q ++ [n]) ≠ some (.link target) := hlink [n]
  have hfree' : ∀ target, g.get? (Q ++ [n]) ≠ some (.link target) := by
    intro target
    rw [hsame]
    exact hfree target
  rw [isDirectory?_child_eq hhere hup hfree, isDirectory?_child_eq hhere' hup hfree', hsame]

theorem read_again {rel : List String} {bytes : ByteArray} (hf : f.WellFormed) (hext : f.Extends g)
    (hsource : f.stat source = .ok (S, .directory)) (hlink : f.LinkFree S) (hrel : rel ≠ [])
    (hup : ".." ∉ rel) (hsame : g.get? (S ++ rel) = f.get? (S ++ rel))
    (h : f.read (source.under rel) = .ok bytes) : g.read (source.under rel) = .ok bytes := by
  have hthere := read_under hf hsource hlink hrel hup h
  unfold Files.read at h
  split at h
  · rename_i place content hstat
    cases h
    obtain ⟨e', hstat', he', -⟩ := stat_extends hf hstat hext
    obtain rfl := stat_under hsource hlink hup hrel hstat
    have hfile : e' = .file bytes := Option.some.inj (he'.symm.trans (hsame.trans hthere))
    rw [Files.read, hstat', hfile]
  · cases h
  · cases h

theorem yields_again (halike : w.FillsAlike later g source S)
    (hrenderer : w.renderer.directory = none) {rel : List String} {c : ByteArray}
    (hf : f.WellFormed) (hext : f.Extends g) (hsource : f.stat source = .ok (S, .directory))
    (hlink : f.LinkFree S) (hrel : rel ≠ []) (hup : ".." ∉ rel) (hlive : w.Live rel false)
    (hsame : g.get? (S ++ rel) = f.get? (S ++ rel)) (h : w.Yields f (source.under rel) c) :
    (w.withEngine later).Yields g (source.under rel) c := by
  obtain ⟨bytes, hread⟩ := read_of_yields h
  have hread' := read_again hf hext hsource hlink hrel hup hsame hread
  have hthere : g.get? (S ++ rel) = some (.file bytes) :=
    hsame.trans (read_under hf hsource hlink hrel hup hread)
  rw [yields_by halike hrenderer hrel hlive hread' hthere]
  exact (yields_congr hrenderer (hread'.trans hread.symm) c).2 h

section
variable (hw : w.RenamesPlainly) (hat : Stands f out P)
include hw hat

theorem entry_later {x : String × Bool} (hx : Path.IsPlain x.1)
    (hrun : w.entry peek here out x r f = (.ok r₁, f')) : f.Extends f' := by
  rcases entry_lands hw here hat hx with ⟨-, hentry⟩ | ⟨-, fault, hentry⟩ |
    ⟨-, -, mid, hputs, -, hentry⟩ | ⟨-, -, c, mid, -, hputs, hentry⟩ <;> rw [hentry] at hrun
  · cases hrun
    exact .refl f
  · cases hrun
  · obtain ⟨-, rfl, -⟩ := peek_eq_ok.1 hrun
    exact hputs.later
  · cases hrun
    exact hputs.later

variable (hn : Path.IsPlain n) (hext : f'.Extends g)
include hn hext

theorem directory_again (hin : w.includes (n, true) = true)
    (hrun : w.entry peek here out (n, true) r f = (.ok r₁, f'))
    (hlisted : ∀ es, listEntries f' (here.child n) = .ok es →
      listEntries g (here.child n) = .ok es) (r' : Report) :
    ∃ r₂, w.entry peek here out (n, true) r' g = (.ok r₂, g) := by
  have hout := outName_isPlain hw (e := (n, true)) hn
  have hfree : ∀ target, f.get? (P ++ [w.outName (n, true)]) ≠ some (.link target) :=
    fun target => hat.destFree [_] target
  rcases entry_directory w here out f hn hin with ⟨fault, mid, -, hentry⟩ | ⟨mid, hmake, hentry⟩ <;>
    rw [hentry] at hrun
  · cases hrun
  -- The first visit ended in the state in which the directory was listed.
  obtain ⟨-, rfl, es, hlist⟩ := peek_eq_ok.1 hrun
  have hstat : f'.stat (out.child (w.outName (n, true))) =
      .ok (P ++ [w.outName (n, true)], .directory) := by
    rcases ensureDirectory_lands hat.wellFormed hat.atDest hout hfree with
      ⟨fault, hno⟩ | ⟨made, hok, -, hstat⟩
    · rw [hno] at hmake
      cases hmake
    · rw [hok] at hmake
      cases hmake
      exact hstat
  have hthere := ensureDirectory_of_stat (stat_directory_extends hstat hext)
  rcases entry_directory w here out g hn hin with ⟨fault, made, hmake', -⟩ | ⟨made, hmake', hentry'⟩
  · rw [hthere] at hmake'
    cases hmake'
  · rw [hthere] at hmake'
    cases hmake'
    refine ⟨r'.addDirectory (out.child (w.outName (n, true))), ?_⟩
    rw [hentry']
    exact peek_eq_ok.2 ⟨rfl, rfl, es, hlisted es hlist⟩

theorem file_again (hat' : Stands g out P) (hin : w.includes (n, false) = true)
    (hrun : w.entry peek here out (n, false) r f = (.ok r₁, f'))
    (hyields : ∀ c, w.Yields f (here.child n) c → (w.withEngine later).Yields g (here.child n) c)
    (hapart : ∀ a y, g.stat (here.child n) = .ok (a, y) → ¬ P <+: a) (r' : Report) :
    ∃ r₂ g', (w.withEngine later).entry peek here out (n, false) r' g = (.ok r₂, g') ∧
      Grown P g g' := by
  have hout := outName_isPlain hw (e := (n, false)) hn
  have hfree : ∀ target, f.get? (P ++ [w.outName (n, false)]) ≠ some (.link target) :=
    fun target => hat.destFree [_] target
  have hfree' : ∀ target, g.get? (P ++ [w.outName (n, false)]) ≠ some (.link target) :=
    fun target => hat'.destFree [_] target
  obtain ⟨c, hc, hwrite⟩ : ∃ c, w.Yields f (here.child n) c ∧
      write (out.child (w.outName (n, false))) c f = (.ok (), f') := by
    rcases entry_file hw here out f hn hin with ⟨fault, hentry⟩ | ⟨c, mid, hc, hwrite, hentry⟩ <;>
      rw [hentry] at hrun <;> cases hrun
    exact ⟨c, hc, hwrite⟩
  have hfile : f'.get? (P ++ [w.outName (n, false)]) = some (.file c) := by
    rcases write_lands hat.wellFormed hat.atDest hout hfree hat.normal c with
      ⟨fault, hno⟩ | ⟨made, hok, hputs⟩
    · rw [hno] at hwrite
      cases hwrite
    · rw [hok] at hwrite
      cases hwrite
      rw [hputs.get?, if_pos rfl]
  obtain ⟨old, hold⟩ := hext.file hfile
  have hrefusal := refusal_of_write hat.atDest hout.2.2.2 hfree hwrite
  obtain ⟨g', hwrite', hputs'⟩ : ∃ g', write (out.child (w.outName (n, false))) c g = (.ok (), g') ∧
      Puts P (w.outName (n, false)) (.file c) g g' := by
    rcases write_lands hat'.wellFormed hat'.atDest hout hfree' hat'.normal c with
      ⟨fault, hno⟩ | done
    · rw [write_child_eq hat'.atDest hout.2.2.2 hfree', hrefusal, hold] at hno
      cases hno
    · exact done
  refine ⟨_, g', entry_of_file (w := w.withEngine later) hw hn hin (hyields c hc) ?_ hwrite' peek r',
    hputs'.grown (by simp)⟩
  intro a b y y' ha hb hab
  obtain ⟨-, hplace, -⟩ := stat_child_inv hat'.atDest hout.2.2.2 hfree' hb
  refine hapart a y ha ?_
  rw [hab, hplace]
  exact List.prefix_append P _

end

/-! ### All visits -/

section
variable (hw : w.RenamesPlainly) (hrenderer : w.renderer.directory = none)
  (h₁ : Ready fs₁ source dest S D) (halike : w.FillsAlike later fs₁ source S)
include hw h₁

theorem visit_later (h : Overlay w (fun _ _ => True) dest D fs₁ front f)
    (hvisits : w.visits fs₁ S = front ++ v :: back)
    (hrun : w.visit source dest v r f = (.ok r₁, f')) : f.Extends f' := by
  obtain ⟨rel, isDirectory⟩ := v
  have hvisited : (rel, isDirectory) ∈ w.visits fs₁ S := by simp [hvisits]
  obtain ⟨hne, ⟨entry, hentry⟩, -⟩ := mem_visits.1 hvisited
  obtain ⟨above, n, rfl⟩ := (List.eq_nil_or_concat' rel).resolve_left hne
  have hplain := h₁.wellFormed.plain hentry n (by simp)
  rw [visit_concat] at hrun
  exact entry_later hw (h.stands hw h₁.toStands hvisits) (x := (n, isDirectory)) hplain hrun

include hrenderer halike

theorem visit_again (h : Overlay w (fun _ _ => True) dest D fs₁ front f)
    (hvisits : w.visits fs₁ S = front ++ v :: back)
    (hrun : w.visit source dest v r f = (.ok r₁, f')) (hgrown' : Grown D fs₁ f')
    (hext : f'.Extends g) (hgrown : Grown D fs₁ g) (r' : Report) :
    ∃ r₂ g', (w.withEngine later).visit source dest v r' g = (.ok r₂, g') ∧ Grown D g g' := by
  have hlater := visit_later hw h₁ h hvisits hrun
  obtain ⟨rel, isDirectory⟩ := v
  have hvisited : (rel, isDirectory) ∈ w.visits fs₁ S := by simp [hvisits]
  obtain ⟨hne, ⟨entry, hentry⟩, -, hall⟩ := mem_visits.1 hvisited
  have hplain := h₁.wellFormed.plain hentry
  have hup : ".." ∉ rel := fun hmem => (hplain ".." (List.mem_append_right _ hmem)).2.2.2 rfl
  obtain ⟨above, n, rfl⟩ := (List.eq_nil_or_concat' rel).resolve_left hne
  have hn : Path.IsPlain n := hplain n (by simp)
  have hready := h₁.later h.grown
  have hready' := h₁.later hgrown
  have hstands := h.stands hw h₁.toStands hvisits
  have hstands' : Stands g (dest.under (above.map fun n => w.outName (n, true)))
      (D ++ above.map fun n => w.outName (n, true)) := by
    refine ⟨hready'.wellFormed, stat_directory_extends hstands.atDest (hlater.trans hext),
      hstands.normal, fun rel target => ?_⟩
    rw [List.append_assoc]
    exact hready'.destFree _ target
  -- The source is in both states what it was when the first walk began.
  have hsame : ∀ rel, g.get? (S ++ rel) = f.get? (S ++ rel) := by
    intro rel
    rw [h₁.unchanged hgrown, h₁.unchanged h.grown]
  have hunder : (source.under above).child n = source.under (above ++ [n]) :=
    (Path.under_concat source above n).symm
  rw [visit_concat] at hrun ⊢
  cases hin : w.includes (n, isDirectory) with
  | false =>
    exact ⟨_, g, entry_skipped (w.withEngine later) _ _ g hin peek r', .refl D hready'.wellFormed⟩
  | true =>
    cases isDirectory with
    | true =>
      have hlisted : ∀ es, listEntries f' ((source.under above).child n) = .ok es →
          listEntries g ((source.under above).child n) = .ok es := by
        rw [hunder]
        intro es hlist
        have hbefore := h₁.later hgrown'
        obtain ⟨Q, hQ, -⟩ := listEntries_eq_ok hlist
        obtain rfl := stat_under hbefore.atSource hbefore.sourceFree hup hne hQ
        rw [listEntries_again hbefore.wellFormed hready'.wellFormed hext hQ ?_ ?_, hlist]
        · intro rel target
          rw [List.append_assoc]
          exact hbefore.sourceFree _ target
        · intro m
          rw [List.append_assoc, h₁.unchanged hgrown, h₁.unchanged hgrown']
      obtain ⟨r₂, hgo⟩ := directory_again hw hstands hn hext hin hrun hlisted r'
      exact ⟨r₂, g, hgo, .refl D hready'.wellFormed⟩
    | false =>
      have hlive : w.Live (above ++ [n]) false := ⟨hall, by rwa [takes, lastName_concat]⟩
      have hyields : ∀ c, w.Yields f ((source.under above).child n) c →
          (w.withEngine later).Yields g ((source.under above).child n) c := by
        rw [hunder]
        exact fun c => yields_again (halike.congr (h₁.unchanged hgrown)) hrenderer hready.wellFormed
          (hlater.trans hext) hready.atSource hready.sourceFree hne hup hlive (hsame _)
      have hapart : ∀ a y, g.stat ((source.under above).child n) = .ok (a, y) →
          ¬ (D ++ above.map fun n => w.outName (n, true)) <+: a := by
        rw [hunder]
        intro a y ha hprefix
        rw [stat_under hready'.atSource hready'.sourceFree hup hne ha] at hprefix
        exact not_prefix_below h₁.apart ((List.prefix_append D _).trans hprefix)
      obtain ⟨r₂, g', hgo, hg'⟩ :=
        file_again hw hstands hn hext hstands' hin hrun hyields hapart r'
      exact ⟨r₂, g', hgo, hg'.mono (List.prefix_append _ _)⟩

theorem visits_again (h : Overlay w (fun _ _ => True) dest D fs₁ front f)
    (hvisits : w.visits fs₁ S = front ++ (vs ++ back))
    (hrun : entries (w.visit source dest) vs r f = (.ok r₁, e)) :
    f.Extends e ∧ ∀ g r', e.Extends g → Grown D fs₁ g →
      ∃ r₂ g', entries ((w.withEngine later).visit source dest) vs r' g = (.ok r₂, g') := by
  induction vs generalizing front r f with
  | nil =>
    cases hrun
    exact ⟨.refl _, fun g r' _ _ => ⟨r', g, rfl⟩⟩
  | cons v vs ih =>
    rw [entries] at hrun
    rcases h.visit hw h₁.toStands source hvisits (fun _ _ _ _ => trivial) r with
      ⟨fault, hfirst⟩ | ⟨fault, mid, hfirst, -⟩ | ⟨r₂, mid, hfirst, hover⟩ <;> rw [hfirst] at hrun
    · cases hrun
    · cases hrun
    · obtain ⟨hrest, hagain⟩ := ih hover (by simpa using hvisits) hrun
      refine ⟨(visit_later hw h₁ h hvisits hfirst).trans hrest, fun g r' hext hgrown => ?_⟩
      obtain ⟨r₃, g₂, hgo, hgrown₂⟩ := visit_again hw hrenderer h₁ halike h hvisits hfirst
        hover.grown (hrest.trans hext) hgrown r'
      rw [entries, hgo]
      exact hagain g₂ r₃ (hext.trans hgrown₂.later) (hgrown.trans hgrown₂)

end

/-! ### The same files -/

theorem Content.unique {rel : List String} {c c' : ByteArray} (h : w.Content f source S rel c)
    (h' : w.Content f source S rel c') : c = c' := by
  obtain ⟨bytes, hbytes, hc⟩ := h
  obtain ⟨bytes', hbytes', hc'⟩ := h'
  obtain rfl : bytes = bytes' := by
    rw [hbytes] at hbytes'
    cases hbytes'
    rfl
  split at hc
  · rename_i hrendered
    rw [if_pos hrendered] at hc'
    obtain ⟨template, text, htemplate, htext, rfl⟩ := hc
    obtain ⟨template', text', htemplate', htext', rfl⟩ := hc'
    rw [htemplate] at htemplate'
    cases htemplate'
    rw [htext] at htext'
    cases htext'
    rfl
  · rename_i hcopied
    rw [if_neg hcopied] at hc'
    exact hc.trans hc'.symm

theorem Overlay.of_withEngine (later : Template.Engine) {content : List String → ByteArray → Prop}
    (h : Overlay (w.withEngine later) content dest D f vs g) : Overlay w content dest D f vs g where
  grown := h.grown
  directory := h.directory
  file := h.file
  rest := h.rest

theorem Overlay.again {content : List String → ByteArray → Prop}
    (hunique : ∀ rel c c', w.takes (rel, false) = true → content rel c → content rel c' → c = c')
    (h : Overlay w content dest D fs₁ vs e) (h' : Overlay w content dest D e vs g) :
    e.Same g := by
  refine ⟨h'.grown.later.current, fun place => ?_⟩
  by_cases himage : ∃ v ∈ vs, w.takes v = true ∧ place = D ++ w.image v
  · obtain ⟨v, hv, htakes, rfl⟩ := himage
    by_cases hfile : ∃ v' ∈ vs, v'.2 = false ∧ w.takes v' = true ∧ w.image v' = w.image v
    · obtain ⟨before, v', after, rfl, ⟨hkind, htakes', hsame⟩, hlast⟩ := exists_last_of hfile
      have hlast' : ∀ x ∈ after, x.2 = false → w.takes x = true → w.image x ≠ w.image v' :=
        fun x hx hkind htakes heq => hlast x hx ⟨hkind, htakes, heq.trans hsame⟩
      obtain ⟨c, hc, hthere⟩ := h.file before after v' rfl hkind htakes' hlast'
      obtain ⟨c', hc', hthere'⟩ := h'.file before after v' rfl hkind htakes' hlast'
      obtain ⟨rel, isDirectory⟩ := v'
      obtain rfl : isDirectory = false := hkind
      rw [← hsame, hthere, hthere', hunique rel c c' htakes' hc hc']
    · have hdir : v.2 = true := by
        cases hkind : v.2 with
        | true => rfl
        | false => exact absurd ⟨v, hv, hkind, htakes, rfl⟩ hfile
      have hthere := isDirectory_of_stat h.grown.wellFormed (h.directory v hv hdir htakes)
      have hthere' := isDirectory_of_stat h'.grown.wellFormed (h'.directory v hv hdir htakes)
      rw [hthere, hthere']
  · exact h'.rest place fun v hv htakes heq => himage ⟨v, hv, htakes, heq⟩

/-! ### The second walk -/

/-- What a file that is taken comes out as depends on the source as it was, and on templates alone
that come out alike. -/
theorem content_again (hready : Ready g source dest S D) (hrenderer : w.renderer.directory = none)
    (halike : w.FillsAlike later f source S) (hkept : ∀ rel, g.get? (S ++ rel) = f.get? (S ++ rel))
    {rel : List String} {c : ByteArray} (hrel : rel ≠ []) (hup : ".." ∉ rel)
    (hlive : w.Live rel false) (hg : Grown D g g')
    (h : (w.withEngine later).Yields g' (source.under rel) c) : w.Content f source S rel c := by
  have hlater := hready.later hg
  have halike' : w.FillsAlike later g' source S :=
    halike.congr fun rel => (hready.unchanged hg rel).trans (hkept rel)
  obtain ⟨bytes, hread⟩ := read_of_yields h
  have hbytes := read_under hlater.wellFormed hlater.atSource hlater.sourceFree hrel hup hread
  exact content_of_yields hready hrenderer hkept hrel hup hg
    ((yields_by halike' hrenderer hrel hlive hread hbytes c).1 h)

theorem overlay_again (hw : w.RenamesPlainly) (hready : Ready g source dest S D)
    (hrenderer : w.renderer.directory = none) (halike : w.FillsAlike later f source S)
    (hkept : ∀ rel, g.get? (S ++ rel) = f.get? (S ++ rel))
    (hrun : entries ((w.withEngine later).visit source dest) (w.visits g S) r g = (.ok r', g')) :
    Overlay w (fun rel c => w.takes (rel, false) = true → w.Content f source S rel c) dest D g
      (w.visits g S) g' := by
  have hw' : (w.withEngine later).RenamesPlainly := hw
  have hall : w.visits g S = [] ++ (w.visits g S ++ []) := by simp
  refine .of_withEngine later (Overlay.entries hw' hready.toStands source (.nil hready.wellFormed)
    hall (fun v hv fs c hg hc htakes => ?_) hrun)
  obtain ⟨hne, ⟨x, hx⟩, -, habove⟩ := mem_visits.1 hv
  have hup : ".." ∉ v.1 := fun hmem =>
    (hready.wellFormed.plain hx ".." (List.mem_append_right _ hmem)).2.2.2 rfl
  exact content_again hready hrenderer halike hkept hne hup ⟨habove, htakes⟩ hg hc

/-- A walk into a destination that is there comes to its visits at once. -/
theorem run_ready (hw : w.RenamesPlainly) (hready : Ready f source dest S D) (hdest : dest.IsNormal)
    {es : List (String × Bool)} (hlist : listEntries f source = .ok es) :
    w.run source dest f = entries (w.visit source dest) (w.visits f S) {} f := by
  have hapart : Apart f S dest := apart_of_stat hready.atDest hready.apart hready.destFree
  have hthere := ensureDirectory_of_stat hready.atDest
  rcases run_cases hw hready.wellFormed hready.atSource hready.sourceFree hdest hapart with
    ⟨fault, made, hmake, -⟩ | ⟨made, E, hmake, -, -, -, hrun, -⟩
  · rw [hthere] at hmake
    cases hmake
  · rw [hthere] at hmake
    cases hmake
    rw [hrun, walked, hlist]

section
variable (hw : w.RenamesPlainly) (hrenderer : w.renderer.directory = none) (hf : f.WellFormed)
  (hsource : f.stat source = .ok (S, .directory)) (hlink : f.LinkFree S) (hdest : dest.IsNormal)
  (hapart : Apart f S dest) (halike : w.FillsAlike later f source S)
include hw hrenderer hf hsource hlink hdest hapart halike

theorem run_again (hrun : w.run source dest f = (.ok r, e)) :
    ∃ g, (w.withEngine later).run source dest e = (.ok r, g) ∧ e.Same g := by
  rcases run_cases hw hf hsource hlink hdest hapart with
    ⟨fault, fs₁, -, herror⟩ | ⟨fs₁, D, -, -, hready, hkept, hwalked, hgrown⟩
  · rw [hrun] at herror
    cases herror
  rw [hrun] at hwalked hgrown
  have hw' : (w.withEngine later).RenamesPlainly := hw
  have hready' := hready.later hgrown
  have hvisits : w.visits e S = w.visits fs₁ S :=
    visits_congr w hready.wellFormed hgrown.wellFormed fun rel _ => hready.unchanged hgrown rel
  obtain ⟨es, hlist⟩ : ∃ es, listEntries fs₁ source = .ok es := by
    unfold walked at hwalked
    cases hlist : listEntries fs₁ source with
    | error fault =>
      rw [hlist] at hwalked
      cases hwalked
    | ok es => exact ⟨es, rfl⟩
  rw [walked, hlist] at hwalked
  -- The second walk finds its destination made, and lists what the first one did.
  have hlist' : listEntries e source = .ok es := by
    rw [← hlist]
    exact listEntries_again hready.wellFormed hgrown.wellFormed hgrown.later hready.atSource
      hready.sourceFree fun n => hready.unchanged hgrown [n]
  have hwalked' : (w.withEngine later).run source dest e =
      entries ((w.withEngine later).visit source dest) (w.visits e S) {} e :=
    run_ready hw' hready' hdest hlist'
  have hall : w.visits fs₁ S = [] ++ (w.visits fs₁ S ++ []) := by simp
  obtain ⟨r₂, g, hgo⟩ := (visits_again hw hrenderer hready (halike.congr hkept)
    (.nil hready.wellFormed) hall hwalked.symm).2 e {} (.refl e) hgrown
  rw [← hvisits] at hgo
  have hrun' := hwalked'.trans hgo
  have hreport : r₂ = r := by
    have hapart' : Apart e S dest := apart_of_stat hready'.atDest hready'.apart hready'.destFree
    have hnotes := run_report hw hf hsource hlink hdest hapart hrun
    rw [← visits_congr w hf hready.wellFormed fun rel _ => hkept rel, ← hvisits] at hnotes
    exact (run_report hw' hgrown.wellFormed hready'.atSource hready'.sourceFree hdest hapart'
      hrun').trans hnotes.symm
  refine ⟨g, hreport ▸ hrun', ?_⟩
  have hself : w.FillsAlike w.engine f source S := fun _ _ _ _ _ _ _ _ _ => rfl
  have hover := overlay_again hw hready hrenderer hself hkept hwalked.symm
  have hover' := overlay_again hw hready' hrenderer halike
    (run_still hw hf hsource hlink hdest hapart hrun) hgo
  rw [hvisits] at hover'
  exact Overlay.again (fun rel c c' htakes hc hc' => (hc htakes).unique (hc' htakes)) hover hover'

end

/-- Walking again at once gives the same report, and leaves files and terminal as they are, if the
templates come out again as they did. -/
theorem materialize_repeats (hw : w.RenamesPlainly) (hrenderer : w.renderer.directory = none)
    {source dest : String} {s s' : Session} (hs : s.files.WellFormed)
    (hsource : s.files.stat (.ofText source) = .ok (S, .directory)) (hlink : s.files.LinkFree S)
    (hapart : Apart s.files S (.ofText dest))
    (halike : w.FillsAlike later s.files (.ofText source) S)
    (h : w.materialize (.ofText source) (.ofText dest) s = (.ok r, s')) :
    ∃ s'', (w.withEngine later).materialize (.ofText source) (.ofText dest) s' = (.ok r, s'') ∧
      s''.terminal = s'.terminal ∧ s'.files.Same s''.files := by
  have hdest := Path.ofText_isNormal dest
  cases hrun : w.run (.ofText source) (.ofText dest) s.files with
  | mk res e =>
    cases res with
    | error f =>
      rw [materialize_of_error w hrun] at h
      cases h
    | ok r₁ =>
      have hmissing : r₁.missing = [] := by
        rw [run_report hw hs hsource hlink hdest hapart hrun, missing_notes]
      rw [(materialize_of_ok w hrun).2.2 hmissing] at h
      cases h
      obtain ⟨g, hrun', hsame⟩ := run_again hw hrenderer hs hsource hlink hdest hapart halike hrun
      exact ⟨_, (materialize_of_ok (w.withEngine later) (s := { s with files := e }) hrun').2.2
        hmissing, rfl, hsame⟩

/-! ### Draws and links -/

def drawingText : String := "\x7b\x7b range(1000000)|random \x7d\x7d"

/-- How templates come out when the number drawn is this one. -/
def drawing (number : Nat) : Template.Engine where
  fill name loader text context :=
    if text = drawingText then .ok (toString number)
    else Template.Engine.standard.fill name loader text context

def drawingWalk : Walk where
  vocabulary := ⟨["vue"], [], Vocabulary.defaultPassthrough, "j2", [], []⟩
  renderer := {}
  selection := ⟨"vue", []⟩
  engine := drawing 3

def templateFiles (text : String) : Files where
  entries := [(["t"], .directory), (["t", "a.txt.j2"], .file text.toUTF8), (["d"], .directory)]

theorem templateFiles_wellFormed (text : String) : (templateFiles text).WellFormed := by
  refine Files.wellFormed_of_sound (by simp [templateFiles]) ?_ rfl
  unfold Files.Sound
  simp only [templateFiles, List.forall_mem_cons, List.not_mem_nil, false_implies, implies_true]
  exact ⟨⟨by simp, rfl, by decide, nofun⟩, ⟨by simp, rfl, by decide, nofun⟩,
    ⟨by simp, rfl, by decide, nofun⟩, trivial⟩

theorem templateFiles_linkFree (text : String) (place : Place) :
    (templateFiles text).LinkFree place :=
  Files.linkFree_of_entries (by simp [templateFiles]) place

def printingText : String := "\x7b\x7b 1 \x7d\x7d"

theorem template_repeats :
    let walked (w : Walk) := w.materialize (.ofText "t") (.ofText "d")
    ∃ r s' s'', walked drawingWalk ⟨templateFiles printingText, { width := 80 }⟩ = (.ok r, s') ∧
      s'.files.get? ["d", "a.txt"] = some (.file "1".toUTF8) ∧
      walked (drawingWalk.withEngine (drawing 5)) s' = (.ok r, s'') ∧ s'.files.Same s''.files := by
  intro walked
  have halike : drawingWalk.FillsAlike (drawing 5) (templateFiles printingText) (.ofText "t") ["t"] := by
    intro rel bytes text context _ _ hbytes htext _
    have hmem := mem_entries_of_get? (by simp) hbytes
    obtain ⟨-, rfl⟩ : rel = ["a.txt.j2"] ∧ bytes = printingText.toUTF8 := by
      simpa [templateFiles] using hmem
    have hread : Text.ofBytes printingText.toUTF8 = .ok printingText := by decide +kernel
    obtain rfl : printingText = text := Except.ok.inj (hread.symm.trans htext)
    have hplain : printingText ≠ drawingText := by decide
    simp [drawingWalk, drawing, hplain]
  have hreport : (walked drawingWalk ⟨templateFiles printingText, { width := 80 }⟩).1.toOption =
      some { rendered := [.ofText "d/a.txt"] } := by
    decide +kernel
  have hfile : (walked drawingWalk ⟨templateFiles printingText, { width := 80 }⟩).2.files.get?
      ["d", "a.txt"] = some (.file "1".toUTF8) := by
    decide +kernel
  cases hr : walked drawingWalk ⟨templateFiles printingText, { width := 80 }⟩ with
  | mk res s' =>
    rw [hr] at hreport hfile
    cases res with
    | error f => cases hreport
    | ok r =>
      have hdest : (templateFiles printingText).stat (.ofText "d") = .ok (["d"], .directory) := by rfl
      obtain ⟨s'', hagain, -, hsame⟩ := materialize_repeats (by simp [RenamesPlainly, drawingWalk])
        rfl (templateFiles_wellFormed _) (by rfl) (templateFiles_linkFree _ _)
        (apart_of_stat hdest (by decide) (templateFiles_linkFree _ _)) halike hr
      exact ⟨r, s', s'', rfl, hfile, hagain, hsame⟩

def nestedText : String := "\x7b\x7b '\x7b\x7b 1 \x7d\x7d' \x7d\x7d"

/-- A tree and a destination that have links to one file. -/
def linkedFiles : Files where
  entries := [(["shared"], .file nestedText.toUTF8), (["t"], .directory),
    (["t", "a.txt.j2"], .link "../shared"), (["d"], .directory), (["d", "a.txt"], .link "../shared")]

/-- Walking again changes what was written, if source and destination link to one file, or if a
template draws another number. -/
theorem second_walk_changes :
    let walked (w : Walk) := w.materialize (.ofText "t") (.ofText "d")
    let linked := walked drawingWalk ⟨linkedFiles, { width := 80 }⟩
    let linked' := walked drawingWalk linked.2
    let drawn := walked drawingWalk ⟨templateFiles drawingText, { width := 80 }⟩
    let drawn' := walked (drawingWalk.withEngine (drawing 5)) drawn.2
    let report : Option Report := some { rendered := [.ofText "d/a.txt"] }
    (linked.1.toOption = report ∧ linked'.1.toOption = report ∧
      linked.2.files.get? ["shared"] = some (.file printingText.toUTF8) ∧
      linked'.2.files.get? ["shared"] = some (.file "1".toUTF8)) ∧
    (drawn.1.toOption = report ∧ drawn'.1.toOption = report ∧
      drawn.2.files.get? ["d", "a.txt"] = some (.file "3".toUTF8) ∧
      drawn'.2.files.get? ["d", "a.txt"] = some (.file "5".toUTF8)) := by
  decide +kernel

end Scaffold.Walk
