import Scaffold.Console.Lines
import Scaffold.Console.Literal
import Scaffold.Console.Pictograph
import Scaffold.Console.Style

set_option autoImplicit false

/-!
# Tags

The markup of the program's own console. On a plain console the tags of a message are dropped; but
a tag that closes a style which is not open makes the message unreadable. A backslash before a tag
makes it text.
-/
namespace Scaffold.Console

inductive Piece where
  | text (cs : List Char)
  /-- A tag: what stands before the equals sign in it, and what after. -/
  | tag (name : List Char) (parameters : List Char)
  deriving DecidableEq, Repr

private def beginsTag (c : Char) : Bool :=
  ('a' ≤ c && c ≤ 'z') || c = '#' || c = '/' || c = '@'

def tag? : List Char → Option (List Char × List Char)
  | '[' :: c :: r =>
    if beginsTag c then
      let body := r.takeWhile fun d => d ≠ '[' && d ≠ ']'
      match r.drop body.length with
      | ']' :: rest => some (c :: body, rest)
      | _ => none
    else none
  | _ => none

private def tagPiece (cs : List Char) : Piece :=
  .tag (cs.takeWhile (· ≠ '=')) ((cs.dropWhile (· ≠ '=')).drop 1)

/-- The pieces of a message. Of backslashes before a tag each pair stands for one, and a single
one makes the tag text; elsewhere a backslash before a bracket is dropped. The characters since the
last tag are kept in reverse. -/
def piecesOf : Nat → List Char → List Char → List Piece
  | 0, before, _ => [.text before.reverse]
  | fuel + 1, before, cs =>
    let slashes := (cs.takeWhile (· = '\\')).length
    match tag? (cs.drop slashes) with
    | some (body, rest) =>
      let half := Piece.text (List.replicate (slashes / 2) '\\')
      let last := if slashes % 2 = 1 then .text ('[' :: body ++ [']']) else tagPiece body
      .text before.reverse :: half :: last :: piecesOf fuel [] rest
    | none =>
      match cs with
      | '\\' :: '[' :: r => piecesOf fuel ('[' :: before) r
      | c :: r => piecesOf fuel (c :: before) r
      | [] => [.text before.reverse]

/-- Whether the parameters of a handler can be read: a name, literals in parentheses, or both. -/
def isHandler (parameters : List Char) : Bool :=
  let cs := Text.strip parameters
  let name := cs.takeWhile fun c => Text.isWord c || c = '.'
  match cs.drop name.length with
  | [] => true
  | '(' :: r =>
    if r.getLast? = some ')' && !r.contains '\n' then Literal.isExpression ('(' :: r)
    else Literal.isExpression cs
  | _ => Literal.isExpression cs

/-! ### Messages -/

structure Opened where
  name : String
  parameters : List Char

def close (opened : List Opened) (name : List Char) : Except Unreadable (List Opened) := do
  let wanted? ← if name.isEmpty then pure none else (normalName name).map some
  let isWanted := fun (o : Opened) => wanted?.all (· = o.name)
  match opened.find? isWanted with
  | none => throw .tags
  | some found =>
    if found.name.toList.head? = some '@' && !found.parameters.isEmpty &&
        !isHandler found.parameters then throw .tags
    else return opened.eraseP isWanted

def textOf : List Piece → List Opened → Except Unreadable (List Char)
  | [], _ => .ok []
  | .text cs :: rest, opened => do return pictured cs ++ (← textOf rest opened)
  | .tag name parameters :: rest, opened =>
    match name with
    | '/' :: closing => do textOf rest (← close opened (Text.strip closing))
    | _ => do textOf rest (⟨← normalName name, parameters⟩ :: opened)

def readTags (message : String) : Except Unreadable (List Char) :=
  let cs := message.toList
  (textOf (piecesOf cs.length [] cs) []).map withoutControls

/-! ### What can be read -/

section
variable {cs front rest body : List Char} {opened : List Opened}

private theorem drop_slashes (cs : List Char) :
    cs.drop (cs.takeWhile (· = '\\')).length = cs.dropWhile (· = '\\') := by
  induction cs with
  | nil => rfl
  | cons c cs ih => by_cases hc : c = '\\' <;> simp [hc, ih]

private theorem tag?_of_ne {c : Char} (hc : c ≠ '[') (cs : List Char) : tag? (c :: cs) = none := by
  unfold tag?
  split
  · rename_i heq
    exact absurd (List.cons.inj heq).1 hc
  · rfl

/-- A text without brackets is backslashes alone, or has some other sign after them. -/
private theorem front_cases (h : '[' ∉ front) (more : List Char) :
    (∀ c ∈ front, c = '\\') ∧ (front ++ '[' :: more).dropWhile (· = '\\') = '[' :: more ∨
      tag? ((front ++ '[' :: more).dropWhile (· = '\\')) = none ∧ front ≠ ['\\'] ∧ front ≠ [] := by
  induction front with
  | nil => exact .inl ⟨by simp, by simp⟩
  | cons c front ih =>
    obtain ⟨hc, hfront⟩ : c ≠ '[' ∧ '[' ∉ front := by simpa [eq_comm] using h
    by_cases hslash : c = '\\'
    · subst hslash
      rcases ih hfront with ⟨hall, hdrop⟩ | ⟨hnone, -, hne⟩
      · exact .inl ⟨by simpa using hall, by simpa using hdrop⟩
      · exact .inr ⟨by simpa using hnone, by simpa using hne, by simp⟩
    · refine .inr ⟨?_, by simp [hslash], by simp⟩
      rw [List.cons_append, List.dropWhile_cons_of_neg (by simpa using hslash), tag?_of_ne hc]

private theorem reads_text (cs : List Char) {pieces : List Piece}
    (h : ∃ text, textOf pieces opened = .ok text) :
    ∃ text, textOf (.text cs :: pieces) opened = .ok text := by
  obtain ⟨text, htext⟩ := h
  exact ⟨_, by rw [textOf, htext]; rfl⟩

private theorem piecesOf_found (h : tag? (cs.dropWhile (· = '\\')) = some (body, rest)) (fuel : Nat)
    (before : List Char) :
    piecesOf (fuel + 1) before cs = .text before.reverse ::
      .text (List.replicate ((cs.takeWhile (· = '\\')).length / 2) '\\') ::
        (if (cs.takeWhile (· = '\\')).length % 2 = 1 then .text ('[' :: body ++ [']'])
          else tagPiece body) :: piecesOf fuel [] rest := by
  simp only [piecesOf, drop_slashes, h]

private theorem piecesOf_cons {c : Char} (h : tag? ((c :: cs).dropWhile (· = '\\')) = none)
    (hplain : c = '\\' → cs.head? ≠ some '[') (fuel : Nat) (before : List Char) :
    piecesOf (fuel + 1) before (c :: cs) = piecesOf fuel (c :: before) cs := by
  simp only [piecesOf, drop_slashes, h]
  split
  · rename_i hcs
    obtain ⟨rfl, rfl⟩ := List.cons.inj hcs
    exact absurd rfl (hplain rfl)
  · rename_i hcs
    obtain ⟨rfl, rfl⟩ := List.cons.inj hcs
    rfl
  · rename_i hcs
    cases hcs

/-- A text up to a tag is read if the tag is read with what follows, and what follows without the
tag too where a backslash may hide it. -/
private theorem reads_front (htag : tag? ('[' :: (body ++ ']' :: rest)) = some (body, rest))
    (hhidden : '\\' ∈ front → ∀ fuel, ∃ text, textOf (piecesOf fuel [] rest) opened = .ok text)
    (hfound : ∀ fuel, ∃ text, textOf (tagPiece body :: piecesOf fuel [] rest) opened = .ok text)
    (h : '[' ∉ front) (fuel : Nat) (before : List Char) :
    ∃ text, textOf (piecesOf fuel before (front ++ '[' :: (body ++ ']' :: rest))) opened =
      .ok text := by
  induction fuel generalizing front before with
  | zero => exact reads_text _ ⟨[], rfl⟩
  | succ fuel ih =>
    rcases front_cases h (body ++ ']' :: rest) with ⟨hall, hdrop⟩ | ⟨hnone, hslash, hne⟩
    · rw [piecesOf_found (hdrop ▸ htag)]
      refine reads_text _ (reads_text _ ?_)
      split
      · rename_i hodd
        refine reads_text _ (hhidden ?_ fuel)
        cases front with
        | nil => simp at hodd
        | cons c front => rw [hall c (by simp)]; simp
      · exact hfound fuel
    · obtain ⟨c, front, rfl⟩ := List.exists_cons_of_ne_nil hne
      have hfront : '[' ∉ front := fun hmem => h (List.mem_cons_of_mem _ hmem)
      rw [List.cons_append] at hnone ⊢
      rw [piecesOf_cons hnone]
      · exact ih (fun hmem => hhidden (List.mem_cons_of_mem _ hmem)) hfront _
      · rintro rfl
        cases front with
        | nil => exact absurd rfl hslash
        | cons d front =>
          simpa [eq_comm] using fun hd : '[' = d => hfront (hd ▸ List.mem_cons_self)

private theorem tag?_eq_none (h : '[' ∉ cs) : tag? (cs.dropWhile (· = '\\')) = none := by
  cases hdrop : cs.dropWhile (· = '\\') with
  | nil => rfl
  | cons c more =>
    refine tag?_of_ne (fun hc => h ?_) more
    exact (List.dropWhile_suffix (· = '\\')).mem (by rw [hdrop, hc]; simp)

private theorem reads_rest (h : '[' ∉ cs) (opened : List Opened) (fuel : Nat)
    (before : List Char) : ∃ text, textOf (piecesOf fuel before cs) opened = .ok text := by
  induction fuel generalizing cs before with
  | zero => exact reads_text _ ⟨[], rfl⟩
  | succ fuel ih =>
    cases cs with
    | nil => exact reads_text _ ⟨[], rfl⟩
    | cons c cs =>
      have hcs : '[' ∉ cs := fun hmem => h (List.mem_cons_of_mem _ hmem)
      rw [piecesOf_cons (tag?_eq_none h) fun _ hhead => hcs (List.mem_of_head? hhead)]
      exact ih hcs _

private theorem style_names : ∀ style ∈ styles, (normalName style.toList).toOption = some style ∧
    Text.strip style.toList = style.toList ∧ '=' ∉ style.toList ∧
      style.toList.head? ∉ [none, some '/', some '@'] := by
  decide +kernel

private theorem normalName_style {style : String} (h : style ∈ styles) :
    normalName style.toList = .ok style := by
  obtain ⟨hname, -⟩ := style_names style h
  cases hread : normalName style.toList with
  | error e => rw [hread] at hname; cases hname
  | ok name => rw [hread] at hname; cases hname; rfl

private theorem style_tags {style : String} (h : style ∈ styles) (rest : List Char) :
    tag? ('[' :: (style.toList ++ ']' :: rest)) = some (style.toList, rest) ∧
      tag? ('[' :: ('/' :: style.toList ++ ']' :: rest)) = some ('/' :: style.toList, rest) := by
  simp only [styles, List.mem_cons, List.not_mem_nil, or_false] at h
  rcases h with rfl | rfl | rfl | rfl | rfl <;> exact ⟨rfl, rfl⟩

private theorem tagPiece_eq {name : List Char} (h : '=' ∉ name) : tagPiece name = .tag name [] := by
  have hname : name.takeWhile (· ≠ '=') = name ∧ name.dropWhile (· ≠ '=') = [] := by
    induction name with
    | nil => exact ⟨rfl, rfl⟩
    | cons c name ih =>
      obtain ⟨hc, hrest⟩ : c ≠ '=' ∧ '=' ∉ name := by simpa [eq_comm] using h
      simpa [hc] using ih hrest
  rw [tagPiece, hname.1, hname.2, List.drop_nil]

private theorem textOf_opening {style : String} (h : style ∈ styles) (pieces : List Piece) :
    textOf (tagPiece style.toList :: pieces) opened = textOf pieces (⟨style, []⟩ :: opened) := by
  obtain ⟨-, -, hequals, hhead⟩ := style_names style h
  rw [tagPiece_eq hequals, textOf]
  · rw [normalName_style h]
    rfl
  · intro closing hslash
    simp [hslash] at hhead

private theorem textOf_closing {style : String} (h : style ∈ styles) (pieces : List Piece) :
    textOf (tagPiece ('/' :: style.toList) :: pieces) (⟨style, []⟩ :: opened) =
      textOf pieces opened := by
  obtain ⟨-, hstrip, hequals, hhead⟩ := style_names style h
  have hclose : close (⟨style, []⟩ :: opened) style.toList = .ok opened := by
    have hempty : style.toList.isEmpty = false := by
      cases hchars : style.toList with
      | nil => simp [hchars] at hhead
      | cons _ _ => rfl
    simp [close, hempty, normalName_style h, Except.map, pure, Except.pure, bind, Except.bind]
  rw [tagPiece_eq (by simpa using hequals), textOf, hstrip, hclose]
  rfl

end

theorem readTags_plain {message : String} (h : '[' ∉ message.toList) :
    ∃ cs, readTags message = .ok cs := by
  obtain ⟨text, htext⟩ := reads_rest h [] message.toList.length []
  exact ⟨_, by rw [readTags, htext]; rfl⟩

theorem readTags_styled {style before message : String} (hstyle : style ∈ styles)
    (hbefore : '[' ∉ before.toList) (hslash : '\\' ∉ before.toList) (h : '[' ∉ message.toList) :
    ∃ cs, readTags (before ++ styled style message) = .ok cs := by
  have htext : (before ++ styled style message).toList = before.toList ++ '[' :: (style.toList ++
      ']' :: (message.toList ++ '[' :: ('/' :: style.toList ++ ']' :: []))) := by
    simp [styled]
  have hmessage (fuel : Nat) : ∃ text, textOf (piecesOf fuel [] (message.toList ++
      '[' :: ('/' :: style.toList ++ ']' :: []))) [⟨style, []⟩] = .ok text := by
    refine reads_front (style_tags hstyle []).2 (fun _ fuel => ?_) (fun fuel => ?_) h fuel []
    · exact reads_rest List.not_mem_nil _ fuel []
    · rw [textOf_closing hstyle]
      exact reads_rest List.not_mem_nil _ fuel []
  obtain ⟨text, hread⟩ := reads_front (style_tags hstyle _).1 (fun hmem => absurd hmem hslash)
    (fun fuel => by rw [textOf_opening hstyle]; exact hmessage fuel) hbefore
    (before ++ styled style message).toList.length []
  rw [htext] at hread
  exact ⟨_, by rw [readTags, htext, hread]; rfl⟩

def Markup.tags : Markup where
  read := readTags
  reads_plain := readTags_plain
  reads_styled := readTags_styled

end Scaffold.Console
