import Scaffold.Proofs.Walk.Filled

set_option autoImplicit false

/-!
# More options

Only a negation is ever lost by choosing more options. So without negations among the names of a
source, what is live under some options is live under more of them; and a walk with more options
leaves in an empty destination all that the walk with fewer would, each under the same path.
-/
namespace Scaffold
open Files

/-! ### Conditions -/

namespace Selection

/-- The other selection is of the same framework and has all options of this one. -/
structure Within (s s' : Selection) : Prop where
  framework : s'.framework = s.framework
  options : s.options ⊆ s'.options

variable {s s' : Selection} {token : String}

theorem Within.hasOption (h : s.Within s') (ht : s.hasOption token = true) :
    s'.hasOption token = true := by
  rw [Selection.hasOption, List.contains_iff_mem] at ht ⊢
  exact h.options ht

theorem Within.has (h : s.Within s') (ht : s.has token = true) : s'.has token = true := by
  rw [Selection.has, Bool.or_eq_true] at ht ⊢
  rw [h.framework]
  exact ht.imp_left h.hasOption

end Selection

namespace Condition

def isNegation : Condition → Bool
  | negated _ => true
  | _ => false

variable {s s' : Selection} {c : Condition}

theorem holds_mono (h : s.Within s') (hplain : c.isNegation = false) (hc : c.holds s = true) :
    c.holds s' = true := by
  cases c with
  | inert t => rfl
  | negated t => cases hplain
  | conjunction ts =>
    rw [holds, List.all_eq_true] at hc ⊢
    exact fun t ht => h.has (hc t ht)
  | frameworkOption f o =>
    rw [holds, Bool.and_eq_true] at hc ⊢
    rw [h.framework]
    exact hc.imp_right h.hasOption
  | framework t =>
    rw [holds] at hc ⊢
    rwa [h.framework]
  | option t =>
    rw [holds] at hc ⊢
    exact h.hasOption hc

theorem allHold_mono {cs : List Condition} (h : s.Within s')
    (hplain : ∀ c ∈ cs, c.isNegation = false) (hcs : allHold s cs = true) :
    allHold s' cs = true := by
  rw [allHold, List.all_eq_true] at hcs ⊢
  exact fun c hc => holds_mono h (hplain c hc) (hcs c hc)

end Condition

namespace Walk

variable {w w' : Walk} {source : Path} {fs : Files} {rel above : List String} {n : String}
  {isDirectory : Bool}

/-! ### Entries -/

def nameConditions (v : Vocabulary) (e : String × Bool) : List Condition :=
  if e.2 then DirectoryName.conditions v e.1 else FileName.conditions v e.1

/-- The walk goes by the same names for the same framework, with at least the same options. -/
structure Within (w w' : Walk) : Prop where
  vocabulary : w'.vocabulary = w.vocabulary
  selection : w.selection.Within w'.selection

theorem includes_eq (w : Walk) (e : String × Bool) :
    w.includes e = Condition.allHold w.selection (nameConditions w.vocabulary e) := by
  unfold includes nameConditions
  split <;> rfl

namespace Within
variable (h : w.Within w')
include h

theorem includes {e : String × Bool}
    (hplain : ∀ c ∈ nameConditions w.vocabulary e, c.isNegation = false)
    (hin : w.includes e = true) : w'.includes e = true := by
  rw [includes_eq] at hin ⊢
  rw [h.vocabulary]
  exact Condition.allHold_mono h.selection hplain hin

theorem outName (e : String × Bool) : w'.outName e = w.outName e := by
  unfold Walk.outName FileName.destination
  rw [h.vocabulary, h.selection.framework]

theorem image (v : List String × Bool) : w'.image v = w.image v := by
  have hnames : w'.outName = w.outName := funext h.outName
  unfold Walk.image
  rw [hnames]

theorem renamesPlainly (hw : w.RenamesPlainly) : w'.RenamesPlainly := by
  unfold RenamesPlainly
  rwa [h.vocabulary]

end Within

/-! ### Two walks -/

/-- No name in the source is read as a negation. -/
def Unnegated (v : Vocabulary) (fs : Files) (source : Path) : Prop :=
  ∀ rel isDirectory, fs.Holds source rel isDirectory →
    ∀ c ∈ nameConditions v (lastName rel, isDirectory), c.isNegation = false

theorem live_concat : w.Live (above ++ [n]) isDirectory ↔
    (∀ m ∈ above, w.includes (m, true) = true) ∧ w.includes (n, isDirectory) = true := by
  rw [Live, takes, List.dropLast_concat, lastName_concat]

theorem live_directory (hrel : rel ≠ []) :
    w.Live rel true ↔ ∀ m ∈ rel, w.includes (m, true) = true := by
  obtain ⟨above, n, rfl⟩ := (List.eq_nil_or_concat' rel).resolve_left hrel
  rw [live_concat]
  simp [or_imp, forall_and]

theorem Within.live (h : w.Within w') (hplain : Unnegated w.vocabulary fs source)
    (hholds : fs.Holds source rel isDirectory) (hlive : w.Live rel isDirectory) :
    w'.Live rel isDirectory := by
  have hlast : ∀ above n isDirectory, fs.Holds source (above ++ [n]) isDirectory →
      w.includes (n, isDirectory) = true → w'.includes (n, isDirectory) = true := by
    intro above n isDirectory hholds
    refine h.includes ?_
    rw [← lastName_concat above n]
    exact hplain _ _ hholds
  induction hholds with
  | @top n isDirectory hn =>
    rw [← List.nil_append [n], live_concat] at hlive ⊢
    exact ⟨by simp, hlast [] n isDirectory (.top hn) hlive.2⟩
  | inside habove hn ih =>
    rw [live_concat, ← live_directory habove.ne_nil] at hlive ⊢
    exact ⟨ih hlive.1, hlast _ _ _ (.inside habove hn) hlive.2⟩

/-- Without negations among the names of a source, what is live in it stays live under more options;
and of two walks from it that both succeed, the one with more options leaves in its destination all
that the other one leaves in its own, under the same names and of the same kind. -/
theorem materialize_monotone (hw : w.RenamesPlainly) (h : w.Within w')
    {source source' dest dest' : String} {s s' : Session}
    (hfresh : Fresh s.files (.ofText source) (.ofText dest))
    (hfresh' : Fresh s'.files (.ofText source') (.ofText dest'))
    (hsame : ∀ rel isDirectory, s'.files.Holds (.ofText source') rel isDirectory ↔
      s.files.Holds (.ofText source) rel isDirectory)
    (hplain : Unnegated w.vocabulary s.files (.ofText source)) :
    (∀ rel isDirectory, s.files.Holds (.ofText source) rel isDirectory →
      w.Live rel isDirectory → w'.Live rel isDirectory) ∧
    ∀ r r', (w.materialize (.ofText source) (.ofText dest) s).1 = .ok r →
      (w'.materialize (.ofText source') (.ofText dest') s').1 = .ok r' →
      ∃ D D',
        (w.materialize (.ofText source) (.ofText dest) s).2.files.stat (.ofText dest) =
          .ok (D, .directory) ∧
        (w'.materialize (.ofText source') (.ofText dest') s').2.files.stat (.ofText dest') =
          .ok (D', .directory) ∧
        ∀ names e, names ≠ [] →
          (w.materialize (.ofText source) (.ofText dest) s).2.files.get? (D ++ names) = some e →
          ∃ e', (w'.materialize (.ofText source') (.ofText dest') s').2.files.get? (D' ++ names) =
              some e' ∧
            (e = .directory ∧ e' = .directory ∨ ∃ c c', e = .file c ∧ e' = .file c') := by
  have hlive : ∀ rel isDirectory, s.files.Holds (.ofText source) rel isDirectory →
      w.Live rel isDirectory → w'.Live rel isDirectory :=
    fun rel isDirectory hholds => h.live hplain hholds
  refine ⟨hlive, fun r r' hr hr' => ?_⟩
  obtain ⟨D, hD, hfilled⟩ := materialize_filled hw hfresh hr
  obtain ⟨D', hD', hfilled'⟩ := materialize_filled (h.renamesPlainly hw) hfresh' hr'
  refine ⟨D, D', hD, hD', fun names e hnames he => ?_⟩
  obtain ⟨rel, isDirectory, hholds, hin, rfl, hkind⟩ := hfilled.only names e hnames he
  obtain ⟨e', he', hkind'⟩ := hfilled'.image rel isDirectory ((hsame rel isDirectory).2 hholds)
    (hlive rel isDirectory hholds hin)
  rw [h.image] at he'
  refine ⟨e', he', ?_⟩
  cases isDirectory with
  | true => exact .inl ⟨hkind, hkind'⟩
  | false =>
    obtain ⟨c, hc⟩ := hkind
    obtain ⟨c', hc'⟩ := hkind'
    exact .inr ⟨c, c', hc, hc'⟩

/-! ### A tree for one option and none -/

def themedFiles : Files where
  entries := [(["t"], .directory), (["t", "src"], .directory),
    (["t", "src", "a.dark.txt"], .file "a".toUTF8), (["d"], .directory)]

def themedWalk (options : List String) : Walk where
  vocabulary := ⟨["vue"], ["dark"], Vocabulary.defaultPassthrough, "j2", [], []⟩
  renderer := {}
  selection := ⟨"vue", options⟩

def themedSession : Session := ⟨themedFiles, { width := 80 }⟩

theorem themedFiles_wellFormed : themedFiles.WellFormed := by
  refine wellFormed_of_sound (by decide) ?_ (by decide)
  unfold Files.Sound
  simp [themedFiles]
  decide

theorem themedFiles_linkFree (place : Place) : themedFiles.LinkFree place :=
  linkFree_of_entries (by simp [themedFiles]) place

theorem themed_fresh : Fresh themedFiles (.ofText "t") (.ofText "d") := by
  have hsource : themedFiles.stat (.ofText "t") = .ok (["t"], .directory) := by rfl
  have hdest : themedFiles.stat (.ofText "d") = .ok (["d"], .directory) := by rfl
  have hvacant : Vacant themedFiles (.ofText "d") := by
    refine vacant_of_stat hdest fun rel hrel => ?_
    cases he : themedFiles.get? (["d"] ++ rel) with
    | none => rfl
    | some e =>
      have hmem := mem_entries_of_get? (by simp) he
      simp [themedFiles, hrel] at hmem
  exact ⟨themedFiles_wellFormed, exists_of_stat hsource,
    aloof_of_apart themedFiles_wellFormed (Path.ofText_isNormal _) hsource (themedFiles_linkFree _)
      (apart_of_stat hdest (by decide) (themedFiles_linkFree _)) hvacant, hvacant⟩

theorem themed_unnegated : Unnegated (themedWalk []).vocabulary themedFiles (.ofText "t") := by
  intro rel isDirectory hholds
  have hsource : themedFiles.stat (.ofText "t") = .ok (["t"], .directory) := by rfl
  obtain ⟨e, he⟩ := hholds.get? themedFiles_wellFormed hsource (themedFiles_linkFree _)
  have hmem := mem_entries_of_get? (by simp) he
  have hrel : rel = ["src"] ∨ rel = ["src", "a.dark.txt"] := by
    have hne := hholds.ne_nil
    simp [themedFiles, hne] at hmem
    exact hmem.imp And.left And.left
  rcases hrel with rfl | rfl <;> cases isDirectory <;> decide +kernel

theorem themed_monotone :
    (themedWalk ["dark"]).Live ["src"] true ∧
      ((themedWalk ["dark"]).materialize (.ofText "t") (.ofText "d") themedSession).2.files.get?
        ["d", "src"] = some .directory := by
  have hreport : ((themedWalk []).materialize (.ofText "t") (.ofText "d")
      themedSession).1.toOption =
        some { directories := [.ofText "d/src"], skipped := [.ofText "t/src/a.dark.txt"] } := by
    decide +kernel
  have hreport' : ((themedWalk ["dark"]).materialize (.ofText "t") (.ofText "d")
      themedSession).1.toOption =
        some { directories := [.ofText "d/src"], copied := [.ofText "d/src/a.txt"] } := by
    decide +kernel
  have hthere : ((themedWalk []).materialize (.ofText "t") (.ofText "d") themedSession).2.files.get?
      ["d", "src"] = some .directory := by
    decide +kernel
  have hdest : ∀ options D, options = [] ∨ options = ["dark"] →
      ((themedWalk options).materialize (.ofText "t") (.ofText "d")
        themedSession).2.files.stat (.ofText "d") = .ok (D, .directory) → D = ["d"] := by
    intro options D hoptions hD
    have hplace : (((themedWalk options).materialize (.ofText "t") (.ofText "d")
        themedSession).2.files.stat (.ofText "d")).toOption = some (["d"], .directory) := by
      rcases hoptions with rfl | rfl <;> decide +kernel
    rw [hD] at hplace
    cases hplace
    rfl
  have hwithin : (themedWalk []).Within (themedWalk ["dark"]) := ⟨rfl, rfl, by simp [themedWalk]⟩
  have hfresh : Fresh themedSession.files (.ofText "t") (.ofText "d") := themed_fresh
  obtain ⟨hlive, hgrows⟩ := materialize_monotone (by unfold RenamesPlainly; decide) hwithin hfresh
    hfresh (fun _ _ => Iff.rfl) themed_unnegated
  have hholds : themedFiles.Holds (.ofText "t") ["src"] true :=
    .top ⟨["t"], by rfl, (mem_names ..).2 ⟨.directory, by rfl⟩, fun _ => ⟨["t", "src"], by rfl⟩,
      fun _ => rfl⟩
  refine ⟨hlive _ _ hholds ⟨by simp, by decide +kernel⟩, ?_⟩
  cases hr : ((themedWalk []).materialize (.ofText "t") (.ofText "d") themedSession).1 with
  | error f =>
    rw [hr] at hreport
    cases hreport
  | ok r =>
    cases hr' : ((themedWalk ["dark"]).materialize (.ofText "t") (.ofText "d") themedSession).1 with
    | error f =>
      rw [hr'] at hreport'
      cases hreport'
    | ok r' =>
      obtain ⟨D, D', hD, hD', hall⟩ := hgrows r r' hr hr'
      obtain rfl := hdest [] D (.inl rfl) hD
      obtain rfl := hdest ["dark"] D' (.inr rfl) hD'
      obtain ⟨e', he', ⟨-, rfl⟩ | ⟨c, -, hfile, -⟩⟩ := hall ["src"] _ (by simp) hthere
      · exact he'
      · cases hfile

end Walk
end Scaffold
