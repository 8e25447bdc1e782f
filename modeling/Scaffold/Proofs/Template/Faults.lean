import Scaffold.Template.Evaluation

set_option autoImplicit false

/-!
# Faults of values

What goes wrong with values is never a fault in the text of a template. So an expression fails with
such a fault only if a block that it calls does.
-/
namespace Scaffold.Template

variable {α β : Type} {p : Fault → Prop}

/-- All faults of an outcome are of a kind. -/
def FaultsIn (p : Fault → Prop) (o : Outcome α) : Prop := ∀ f, o = .error f → p f

@[grind .]
theorem faultsIn_ok (a : α) : FaultsIn p (.ok a) := by
  rintro f ⟨⟩

@[grind .]
theorem faultsIn_pure (a : α) : FaultsIn p (pure a) := faultsIn_ok a

@[grind =]
theorem faultsIn_error {f : Fault} : FaultsIn p (.error f : Outcome α) ↔ p f := by
  constructor
  · exact fun h => h f rfl
  · rintro h _ ⟨⟩
    exact h

/-! ### One step after the other -/

@[grind ←]
theorem faultsIn_bind {o : Outcome α} {g : α → Outcome β} (h : FaultsIn p o)
    (hg : ∀ a, FaultsIn p (g a)) : FaultsIn p (o >>= g) := by
  cases o with
  | ok a => exact hg a
  | error f => exact faultsIn_error.2 (faultsIn_error.1 h)

@[grind ←]
theorem faultsIn_map {o : Outcome α} (g : α → β) (h : FaultsIn p o) : FaultsIn p (o.map g) := by
  cases o with
  | ok a => exact faultsIn_ok _
  | error f => exact faultsIn_error.2 (faultsIn_error.1 h)

@[grind ←]
theorem faultsIn_mapM {g : α → Outcome β} (h : ∀ a, FaultsIn p (g a)) (xs : List α) :
    FaultsIn p (xs.mapM g) := by
  induction xs with
  | nil => exact faultsIn_pure _
  | cons x xs ih =>
    rw [List.mapM_cons]
    exact faultsIn_bind (h x) fun _ => faultsIn_bind ih fun _ => faultsIn_pure _

@[grind ←]
theorem faultsIn_foldlM {g : β → α → Outcome β} (h : ∀ b a, FaultsIn p (g b a)) (b : β)
    (xs : List α) : FaultsIn p (xs.foldlM g b) := by
  induction xs generalizing b with
  | nil => exact faultsIn_pure _
  | cons x xs ih =>
    rw [List.foldlM_cons]
    exact faultsIn_bind (h b x) ih

@[grind ←]
theorem faultsIn_filterM {g : α → Outcome Bool} (h : ∀ a, FaultsIn p (g a)) (xs : List α) :
    FaultsIn p (xs.filterM g) := by
  have hrest (kept : List α) : FaultsIn p (xs.filterAuxM g kept) := by
    induction xs generalizing kept with
    | nil => exact faultsIn_pure _
    | cons x xs ih => exact faultsIn_bind (h x) fun _ => ih _
  exact faultsIn_bind (hrest []) fun _ => faultsIn_pure _

/-- A kind that every fault is of but those in the texts of templates. -/
class Broad (p : Fault → Prop) : Prop where
  failed (message : String) : p (.failed message)
  missing (message : String) : p (.missing message)
  absent (message : String) : p (.absent message)
  misuse (m : Misuse) : p (.misuse m)

attribute [grind .] Broad.failed

variable [Broad p]

@[grind .]
theorem faultsIn_misused (m : Misuse) : FaultsIn p (misused m : Outcome α) :=
  faultsIn_error.2 (Broad.misuse m)

@[grind .]
theorem faultsIn_useOf (cause : Absence) : FaultsIn p (useOf cause : Outcome α) :=
  faultsIn_error.2 (Broad.absent cause.message)

/-! ### Operations -/

@[grind .]
theorem faultsIn_truth (v : Value) : FaultsIn p (truth v) := by
  unfold truth
  grind

@[grind .]
theorem faultsIn_itemsOf (v : Value) : FaultsIn p (itemsOf v) := by
  unfold itemsOf
  grind

@[grind .]
theorem faultsIn_textOf (v : Value) : FaultsIn p (textOf v) := by
  unfold textOf
  grind

@[grind .]
theorem faultsIn_unfit (a b : Value) : FaultsIn p (unfit a b : Outcome α) := by
  unfold unfit
  grind

@[grind .]
theorem faultsIn_toDouble (n : Int) : FaultsIn p (toDouble n) := by
  unfold toDouble
  grind

@[grind .]
theorem faultsIn_doublePower (x y : Float) : FaultsIn p (doublePower x y) := by
  unfold doublePower
  grind

@[grind .]
theorem faultsIn_wholeArithmetic (op : Arithmetic) (m n : Int) :
    FaultsIn p (wholeArithmetic op m n) := by
  unfold wholeArithmetic
  grind

@[grind .]
theorem faultsIn_doubleArithmetic (op : Arithmetic) (x y : Float) :
    FaultsIn p (doubleArithmetic op x y) := by
  unfold doubleArithmetic
  grind

theorem faultsIn_operands {a b : Value} {operands : Outcome Operands}
    (h : operands? a b = some operands) : FaultsIn p operands := by
  unfold operands? at h
  grind

@[grind .]
theorem faultsIn_arithmetic (op : Arithmetic) (a b : Value) : FaultsIn p (arithmetic op a b) := by
  unfold arithmetic
  split
  · rename_i operands h
    refine faultsIn_bind (faultsIn_operands h) fun x => ?_
    split
    · exact faultsIn_wholeArithmetic _ _ _
    · exact faultsIn_doubleArithmetic _ _ _
  · grind

@[grind .]
theorem faultsIn_negative (v : Value) : FaultsIn p (negative v) := by
  unfold negative
  grind

@[grind .]
theorem faultsIn_positive (v : Value) : FaultsIn p (positive v) := by
  unfold positive
  grind

@[grind .]
theorem faultsIn_equal (a b : Value) : FaultsIn p (equal a b) := by
  unfold equal
  grind

@[grind .]
theorem faultsIn_less (a b : Value) : FaultsIn p (less a b) := by
  unfold less
  grind

@[grind .]
theorem faultsIn_anyEqual (v : Value) (ws : List Value) : FaultsIn p (anyEqual v ws) := by
  induction ws with
  | nil => exact faultsIn_ok _
  | cons w ws ih =>
    unfold anyEqual
    grind

@[grind .]
theorem faultsIn_contains (whole part : Value) : FaultsIn p (contains whole part) := by
  unfold contains
  grind

@[grind .]
theorem faultsIn_compare (op : Comparison) (a b : Value) : FaultsIn p (compare op a b) := by
  unfold compare
  grind

/-! ### Members, items and parts -/

@[grind .]
theorem faultsIn_member (v : Value) (n : String) : FaultsIn p (member v n) := by
  unfold member
  grind

@[grind .]
theorem faultsIn_item (v key : Value) : FaultsIn p (item v key) := by
  unfold item
  grind

@[grind .]
theorem faultsIn_bound (v : Value) : FaultsIn p (bound? v) := by
  unfold bound?
  grind

@[grind .]
theorem faultsIn_slice (v start stop step : Value) : FaultsIn p (slice v start stop step) := by
  unfold slice
  split
  · exact faultsIn_useOf _
  case h_6 => exact faultsIn_misused _
  all_goals
    refine faultsIn_bind (faultsIn_bound _) fun start? => ?_
    refine faultsIn_bind (faultsIn_bound _) fun stop? => ?_
    refine faultsIn_bind (faultsIn_bound _) fun step? => ?_
    grind

@[grind .]
theorem faultsIn_bindArguments (parameters : List (String × Option Value)) (a : Arguments) :
    FaultsIn p (a.bind parameters) := by
  unfold Arguments.bind
  grind

@[grind .]
theorem faultsIn_onlyPlaced (least most : Nat) (a : Arguments) :
    FaultsIn p (a.onlyPlaced least most) := by
  unfold Arguments.onlyPlaced
  grind

@[grind .]
theorem faultsIn_cutBy (cut : (Char → Bool) → List Char → List Char) (cs : List Char)
    (a : Arguments) : FaultsIn p (cutBy cut cs a) := by
  unfold cutBy
  grind

@[grind .]
theorem faultsIn_splitText (cs : List Char) (a : Arguments) : FaultsIn p (splitText cs a) := by
  unfold splitText
  refine faultsIn_bind (faultsIn_bindArguments _ a) fun values => ?_
  grind

@[grind .]
theorem faultsIn_joinTexts (separator : String) (items : List Value) :
    FaultsIn p (joinTexts separator items) := by
  unfold joinTexts
  grind

@[grind .]
theorem faultsIn_positionOf (v : Value) (ws : List Value) : FaultsIn p (positionOf? v ws) := by
  induction ws with
  | nil => exact faultsIn_ok _
  | cons w ws ih =>
    unfold positionOf?
    grind

@[grind .]
theorem faultsIn_countOf (v : Value) (items : List Value) : FaultsIn p (countOf v items) := by
  unfold countOf
  grind

@[grind .]
theorem faultsIn_sequenceMethod (items : List Value) (absentText : Value → String) (n : String)
    (a : Arguments) : FaultsIn p (sequenceMethod items absentText n a) := by
  unfold sequenceMethod
  grind

@[grind .]
theorem faultsIn_dictMethod (entries : List (Value × Value)) (n : String) (a : Arguments) :
    FaultsIn p (dictMethod entries n a) := by
  unfold dictMethod
  grind

@[grind .]
theorem faultsIn_makeRange (a : Arguments) : FaultsIn p (makeRange a) := by
  unfold makeRange
  grind

@[grind .]
theorem faultsIn_charsOf (v : Value) : FaultsIn p (charsOf v) := by
  unfold charsOf
  grind

@[grind .]
theorem faultsIn_hasEnd (fits : List Char → List Char → Bool) (cs : List Char) (a : Arguments) :
    FaultsIn p (hasEnd fits cs a) := by
  unfold hasEnd
  grind

@[grind .]
theorem faultsIn_textMethod (cs : List Char) (n : String) (a : Arguments) :
    FaultsIn p (textMethod cs n a) := by
  unfold textMethod
  dsimp only
  split
  case h_13 =>
    refine faultsIn_bind (faultsIn_onlyPlaced _ _ a) fun values => ?_
    split
    · grind
    · exact faultsIn_misused _
  all_goals grind

@[grind .]
theorem faultsIn_callMethod (v : Value) (n : String) (a : Arguments) :
    FaultsIn p (callMethod v n a) := by
  unfold callMethod
  grind

/-! ### Filters and tests -/

@[grind .]
theorem faultsIn_follow (v : Value) (steps : List Value) : FaultsIn p (follow v steps) := by
  induction steps generalizing v with
  | nil => exact faultsIn_ok _
  | cons step steps ih => exact faultsIn_bind (faultsIn_item v step) ih

@[grind .]
theorem faultsIn_keyOf (caseSensitive : Bool) (path v : Value) :
    FaultsIn p (keyOf caseSensitive path v) := by
  unfold keyOf
  grind

@[grind .]
theorem faultsIn_keysLess (as bs : List Value) : FaultsIn p (keysLess as bs) := by
  induction as generalizing bs with
  | nil => exact faultsIn_ok _
  | cons a as ih =>
    cases bs with
    | nil => exact faultsIn_ok _
    | cons b bs =>
      unfold keysLess
      grind

omit [Broad p] in
theorem faultsIn_insertSorted {after : List Value → List Value → Outcome Bool}
    (h : ∀ a b, FaultsIn p (after a b)) (x : List Value × Value) (ys : List (List Value × Value)) :
    FaultsIn p (insertSorted after x ys) := by
  induction ys with
  | nil => exact faultsIn_ok _
  | cons y ys ih =>
    unfold insertSorted
    grind

@[grind .]
theorem faultsIn_sortItems (descending caseSensitive : Bool) (paths items : List Value) :
    FaultsIn p (sortItems descending caseSensitive paths items) := by
  have hafter (a b : List Value) :
      FaultsIn p (if descending then keysLess a b else keysLess b a) := by
    grind
  unfold sortItems
  refine faultsIn_bind (by grind) fun keyed => faultsIn_bind ?_ fun sorted => faultsIn_pure _
  exact faultsIn_foldlM (fun done x => faultsIn_insertSorted hafter x done) _ _

@[grind ←]
theorem faultsIn_bestItem {beats : Value → Value → Outcome Bool}
    (h : ∀ a b, FaultsIn p (beats a b)) (caseSensitive : Bool) (path : Value) (vs : List Value) :
    FaultsIn p (bestItem beats caseSensitive path vs) := by
  have hkey (v : Value) : FaultsIn p (keyOf caseSensitive path v) := faultsIn_keyOf _ path v
  cases vs with
  | nil => exact faultsIn_ok _
  | cons v vs =>
    refine faultsIn_bind (hkey v) fun first => faultsIn_bind ?_ fun _ => faultsIn_pure _
    refine faultsIn_foldlM (fun best w => faultsIn_bind (hkey w) fun key => ?_) _ _
    exact faultsIn_bind (h _ _) fun _ => faultsIn_pure _

@[grind .]
theorem faultsIn_reversedItems (v : Value) : FaultsIn p (reversedItems v) := by
  unfold reversedItems
  grind

@[grind .]
theorem faultsIn_spelt (f : String → String) (v : Value) : FaultsIn p (spelt f v) := by
  unfold spelt
  grind

@[grind .]
theorem faultsIn_lengthOf (v : Value) : FaultsIn p (lengthOf v) := by
  unfold lengthOf
  grind

@[grind .]
theorem faultsIn_limitOf (cs : List Char) (v : Value) : FaultsIn p (limitOf cs v) := by
  unfold limitOf
  grind

theorem faultsIn_applyTo (f : Filter) (vs : List Value) : FaultsIn p (f.applyTo vs) := by
  unfold Filter.applyTo
  split
  all_goals grind

@[grind .]
theorem faultsIn_filter (f : Filter) (v : Value) (a : Arguments) : FaultsIn p (f.apply v a) :=
  faultsIn_bind (faultsIn_bindArguments _ _) (faultsIn_applyTo f)

@[grind .]
theorem faultsIn_leaves (v : Value) (rest : Int) : FaultsIn p (Test.leaves v rest) := by
  unfold Test.leaves
  grind

theorem faultsIn_holds (t : Test) (v : Value) : FaultsIn p (t.holds v) := by
  unfold Test.holds
  split
  all_goals grind

@[grind .]
theorem faultsIn_test (t : Test) (v : Value) (a : Arguments) : FaultsIn p (t.apply v a) :=
  faultsIn_bind (faultsIn_onlyPlaced _ _ a) fun _ => faultsIn_holds t v

/-! ### Expressions -/

@[grind .]
theorem faultsIn_active (options : List String) (v : Value) :
    FaultsIn p (Predicate.active options v) := by
  unfold Predicate.active
  grind

@[grind .]
theorem faultsIn_anyActive (options : List String) (vs : List Value) :
    FaultsIn p (Predicate.anyActive options vs) := by
  induction vs with
  | nil => exact faultsIn_ok _
  | cons v vs ih =>
    unfold Predicate.anyActive
    grind

@[grind .]
theorem faultsIn_allActive (options : List String) (vs : List Value) :
    FaultsIn p (Predicate.allActive options vs) := by
  induction vs with
  | nil => exact faultsIn_ok _
  | cons v vs ih =>
    unfold Predicate.allActive
    grind

@[grind .]
theorem faultsIn_answer (question : Predicate) (a : Arguments) :
    FaultsIn p (Predicate.answer question a) := by
  unfold Predicate.answer
  grind

@[grind .]
theorem faultsIn_pass (a : Arguments) (passing : Passing) (v : Value) :
    FaultsIn p (a.pass passing v) := by
  cases passing with
  | place | name => exact faultsIn_ok _
  | spread => exact faultsIn_bind (faultsIn_itemsOf v) fun _ => faultsIn_pure _
  | spreadNames =>
    unfold Arguments.pass
    dsimp only
    split
    · refine faultsIn_bind (faultsIn_mapM (fun entry => ?_) _) fun _ => faultsIn_pure _
      split
      · exact faultsIn_pure _
      · exact faultsIn_misused _
    · exact faultsIn_useOf _
    · exact faultsIn_misused _

@[grind .]
theorem faultsIn_applyFilter (name : String) (v : Value) (a : Arguments) :
    FaultsIn p (applyFilter name v a) := by
  unfold applyFilter
  grind [notFound]

@[grind .]
theorem faultsIn_applyTest (name : String) (v : Value) (a : Arguments) :
    FaultsIn p (applyTest name v a) := by
  unfold applyTest
  grind [notFound]

section
variable {env : Environment}

@[grind .]
theorem faultsIn_environmentMember (env : Environment) (v : Value) (n : String) :
    FaultsIn p (env.member v n) := by
  unfold Environment.member
  grind

theorem faultsIn_call (h : ∀ name level, FaultsIn p (env.runBlock name level)) (v : Value)
    (a : Arguments) : FaultsIn p (env.call v a) := by
  unfold Environment.call
  grind

omit [Broad p]

mutual
theorem faultsIn_eval [Broad p] (h : ∀ name level, FaultsIn p (env.runBlock name level)) :
    (e : Expr) → FaultsIn p (eval env e)
  | .literal _ | .name _ => faultsIn_ok _
  | .tuple items | .list items => faultsIn_bind (faultsIn_evalAll h items) fun _ => faultsIn_pure _
  | .dict entries => faultsIn_bind (faultsIn_evalEntries h [] entries) fun _ => faultsIn_pure _
  | .member e n => faultsIn_bind (faultsIn_eval h e) fun v => faultsIn_environmentMember env v n
  | .item e key =>
    faultsIn_bind (faultsIn_eval h e) fun v => faultsIn_bind (faultsIn_eval h key) (faultsIn_item v)
  | .slice e start stop step =>
    faultsIn_bind (faultsIn_eval h e) fun v => faultsIn_bind (faultsIn_eval h start) fun a =>
      faultsIn_bind (faultsIn_eval h stop) fun b =>
        faultsIn_bind (faultsIn_eval h step) (faultsIn_slice v a b)
  | .strayRange => faultsIn_misused _
  | .call e args =>
    faultsIn_bind (faultsIn_eval h e) fun v =>
      faultsIn_bind (faultsIn_evalArgs h {} args) (faultsIn_call h v)
  | .filter _ e name args =>
    faultsIn_bind (faultsIn_eval h e) fun v =>
      faultsIn_bind (faultsIn_evalArgs h {} args) (faultsIn_applyFilter name v)
  | .test _ e name args =>
    faultsIn_bind (faultsIn_eval h e) fun v =>
      faultsIn_bind (faultsIn_evalArgs h {} args) (faultsIn_applyTest name v)
  | .arithmetic op a b =>
    faultsIn_bind (faultsIn_eval h a) fun v =>
      faultsIn_bind (faultsIn_eval h b) (faultsIn_arithmetic op v)
  | .minus e => faultsIn_bind (faultsIn_eval h e) faultsIn_negative
  | .plus e => faultsIn_bind (faultsIn_eval h e) faultsIn_positive
  | .not e =>
    faultsIn_bind (faultsIn_eval h e) fun v =>
      faultsIn_bind (faultsIn_truth v) fun _ => faultsIn_pure _
  | .both a b =>
    faultsIn_bind (faultsIn_eval h a) fun v => faultsIn_bind (faultsIn_truth v) fun holds => by
      cases holds
      · exact faultsIn_pure v
      · exact faultsIn_eval h b
  | .either a b =>
    faultsIn_bind (faultsIn_eval h a) fun v => faultsIn_bind (faultsIn_truth v) fun holds => by
      cases holds
      · exact faultsIn_eval h b
      · exact faultsIn_pure v
  | .concat items =>
    faultsIn_bind (faultsIn_evalAll h items) fun vs =>
      faultsIn_bind (faultsIn_mapM faultsIn_textOf vs) fun _ => faultsIn_pure _
  | .compare first others =>
    faultsIn_bind (faultsIn_eval h first) fun v => faultsIn_evalChain h v others
  | .choice e test other =>
    faultsIn_bind (faultsIn_eval h test) fun v => faultsIn_bind (faultsIn_truth v) fun holds => by
      cases holds
      · exact faultsIn_eval h other
      · exact faultsIn_eval h e
  | .guarded line e test =>
    faultsIn_bind (faultsIn_eval h test) fun v => faultsIn_bind (faultsIn_truth v) fun holds => by
      cases holds
      · exact faultsIn_pure _
      · exact faultsIn_eval h e

theorem faultsIn_evalAll [Broad p] (h : ∀ name level, FaultsIn p (env.runBlock name level)) :
    (es : List Expr) → FaultsIn p (evalAll env es)
  | [] => faultsIn_ok _
  | e :: es =>
    faultsIn_bind (faultsIn_eval h e) fun _ =>
      faultsIn_bind (faultsIn_evalAll h es) fun _ => faultsIn_pure _

theorem faultsIn_evalEntries [Broad p] (h : ∀ name level, FaultsIn p (env.runBlock name level))
    (done : List (Value × Value)) :
    (entries : List (Expr × Expr)) → FaultsIn p (evalEntries env done entries)
  | [] => faultsIn_ok _
  | (k, v) :: es =>
    faultsIn_bind (faultsIn_eval h k) fun key => faultsIn_bind (faultsIn_eval h v) fun value => by
      split
      · exact faultsIn_useOf _
      · split
        · exact faultsIn_evalEntries h _ es
        · exact faultsIn_misused _

theorem faultsIn_evalArgs [Broad p] (h : ∀ name level, FaultsIn p (env.runBlock name level))
    (done : Arguments) :
    (args : List (Passing × Expr)) → FaultsIn p (evalArgs env done args)
  | [] => faultsIn_ok _
  | (passing, e) :: es =>
    faultsIn_bind (faultsIn_eval h e) fun v =>
      faultsIn_bind (faultsIn_pass done passing v) fun more => faultsIn_evalArgs h more es

theorem faultsIn_evalChain [Broad p] (h : ∀ name level, FaultsIn p (env.runBlock name level))
    (left : Value) :
    (others : List (Comparison × Expr)) → FaultsIn p (evalChain env left others)
  | [] => faultsIn_ok _
  | (op, e) :: es =>
    faultsIn_bind (faultsIn_eval h e) fun right =>
      faultsIn_bind (faultsIn_compare op left right) fun holds => by
        cases holds
        · exact faultsIn_pure _
        · exact faultsIn_evalChain h right es
end

end

end Scaffold.Template
