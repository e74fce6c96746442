-- SUMMARY: Rules by which templates are rendered, one for each kind of node and expression.
import Mathlib.Data.List.Basic
import Phrasebook.Proofs.Outcome
import Phrasebook.Template.Engine

/-!
# Rules of rendering

A template is rendered as a text if each of its nodes is. There is a rule for
every kind of node, from what comes after the node to the node and what comes
after it, so that a template is taken apart from its front. A rule asks for a
value of each expression of its node, and nothing can be rendered by the rules
that is not there.
-/

namespace Phrasebook.Template

open Text

/-- The nodes are rendered as a text of these characters. -/
def Renders (env : Environment) (nodes : List Node) (cs : List Char) : Prop :=
  renderNodes env nodes = .ok (String.ofList cs)

variable {env : Environment} {e : Expr} {v w : Value} {x y s : String} {cs ds : List Char}
  {nodes rest yes no : List Node}

/-! ## Equations -/

theorem value_name : (Expr.name x).value env = .ok (env.lookup x) :=
  rfl

theorem value_member : (Expr.member e x).value env = (do (← e.value env).member x) :=
  rfl

theorem value_negation :
    (Expr.negation e).value env = (do return .json (.bool !(← (← e.value env).truthy))) :=
  rfl

theorem value_choice {e₁ e₂ : Expr} : (Expr.choice e e₁ e₂).value env = (do
    if ← (← e.value env).truthy then e₁.value env else e₂.value env) :=
  rfl

theorem value_test : (Expr.test e x []).value env = (do
    return .json (.bool (← env.test x (← e.value env) []))) :=
  rfl

theorem value_filter : (Expr.filter e x []).value env = (do env.filter x (← e.value env) []) :=
  rfl

theorem renderNode_output : renderNode env (.output e) = (do env.write (← e.value env)) :=
  rfl

theorem renderNode_branch : renderNode env (.branch e yes no) = (do
    if ← (← e.value env).truthy then renderNodes env yes else renderNodes env no) :=
  rfl

theorem renderNodes_cons {node : Node} : renderNodes env (node :: rest) = (do
    let text ← renderNode env node
    let more ← renderNodes env rest
    return text ++ more) :=
  rfl

/-! ## Values -/

/-- An expression stands for a value. -/
def Evaluates (env : Environment) (e : Expr) (v : Value) : Prop :=
  e.value env = .ok v

/-- A name that the context holds. -/
theorem evaluates_name (hx : x ≠ "self") (h : env.context.lookup x = some v) :
    Evaluates env (.name x) v := by
  rw [Evaluates, value_name, Environment.lookup, if_neg hx, h]

theorem evaluates_constant (v : Json) : Evaluates env (.constant v) (.json v) :=
  rfl

/-- A field of an object is its member, unless all objects have a member of that name. -/
theorem Evaluates.field {fields : Json.Fields} {v : Json}
    (h : Evaluates env e (.json (.obj fields))) (hmethod : x ∉ Value.objectMethods)
    (hclass : x ≠ "__class__") (hv : fields.lookup x = some v) :
    Evaluates env (.member e x) (.json v) := by
  have hown : Value.ownMember? (.json (.obj fields)) x = none := by
    simp [Value.ownMember?, Value.numberPart?, Value.methods, hmethod, hclass]
  have hitem : Value.item? (.json (.obj fields)) (.text x) = some (.json v) := by
    simp [Value.item?, Value.text, hv]
  rw [Evaluates, value_member, h]
  simp only [bind, Except.bind, Value.member, hown, hitem]
  rfl

/-- Whether a loop is at its last item. -/
theorem Evaluates.last {i : Nat} {items : List Value} (h : Evaluates env e (.loop i items)) :
    Evaluates env (.member e "last") (.json (.bool (i + 1 == items.length))) := by
  rw [Evaluates, value_member, h]
  rfl

theorem Evaluates.negation {b : Bool} (h : Evaluates env e v) (hb : v.truthy = .ok b) :
    Evaluates env (.negation e) (.json (.bool !b)) := by
  rw [Evaluates, value_negation, h]
  simp only [bind, Except.bind, hb]
  rfl

theorem Evaluates.choice {b : Bool} {e₁ e₂ : Expr} {v₁ v₂ : Value} (h : Evaluates env e v)
    (hb : v.truthy = .ok b) (h₁ : Evaluates env e₁ v₁) (h₂ : Evaluates env e₂ v₂) :
    Evaluates env (.choice e e₁ e₂) (if b then v₁ else v₂) := by
  rw [Evaluates, value_choice, h]
  simp only [bind, Except.bind, hb]
  cases b with
  | true => exact h₁
  | false => exact h₂

theorem Evaluates.isNone {v : Json} (h : Evaluates env e (.json v)) :
    Evaluates env (.test e "none" []) (.json (.bool (v.kind = .null))) := by
  have hisOf : Value.isOf [.null] (.json v) = decide (v.kind = .null) := by
    simp [Value.isOf]
  have htest : env.test "none" (.json v) [] = .ok (v.kind = .null) := by
    rw [← hisOf]
    rfl
  rw [Evaluates, value_test, h]
  simp only [bind, Except.bind, htest]
  rfl

/-- A filter of the engine's own. -/
theorem Evaluates.filter {f : Filter} {v : Json} (h : Evaluates env e (.json v))
    (hfilter : env.filters.lookup x = some f) (hs : f v = .ok s) :
    Evaluates env (.filter e x []) (.text s) := by
  rw [Evaluates, value_filter, h]
  simp only [bind, Except.bind, Environment.filter, hfilter, Value.toJson, hs]
  rfl

/-! ## Nodes -/

theorem renders_cons {node : Node} (hnode : renderNode env node = .ok (String.ofList cs))
    (h : Renders env rest ds) : Renders env (node :: rest) (cs ++ ds) := by
  rw [Renders, renderNodes_cons, hnode, h]
  simp [bind, Except.bind, pure, Except.pure]

theorem Renders.of_eq (h : Renders env nodes cs) (heq : cs = ds) : Renders env nodes ds :=
  heq ▸ h

theorem Renders.nil : Renders env [] [] :=
  rfl

theorem Renders.text {l : List Char} (h : Renders env rest cs) :
    Renders env (.text (String.ofList l) :: rest) (l ++ cs) :=
  renders_cons rfl h

/-- An output in a text that is no markup. -/
theorem Renders.output (hplain : env.escaping = false) (he : Evaluates env e v)
    (hshown : v.unshown? env.limit = none) (hv : v.display = .ok s) (h : Renders env rest cs) :
    Renders env (.output e :: rest) (s.toList ++ cs) := by
  refine renders_cons ?_ h
  rw [renderNode_output, he, String.ofList_toList]
  simp [bind, Except.bind, Environment.write, hplain, hshown, hv]

/-- An output of what the context holds under a name. JSON that can be shown has a text. -/
theorem Renders.named {v : Json} (hplain : env.escaping = false) (hx : x ≠ "self")
    (hv : env.context.lookup x = some (.json v)) (hshown : v.unshown? env.limit = none)
    (h : Renders env rest cs) : Renders env (.output (.name x) :: rest) (v.display.toList ++ cs) :=
  .output hplain (evaluates_name hx hv) hshown rfl h

/-- Only the nodes of the branch that is taken have to be rendered. -/
theorem Renders.branch {b : Bool} {c d : List Char} (he : Evaluates env e v)
    (hb : v.truthy = .ok b) (hyes : b = true → Renders env yes c)
    (hno : b = false → Renders env no c) (h : Renders env rest d) :
    Renders env (.branch e yes no :: rest) (c ++ d) := by
  refine renders_cons ?_ h
  rw [renderNode_branch, he]
  simp only [bind, Except.bind, hb]
  cases b with
  | true => exact hyes rfl
  | false => exact hno rfl

theorem joinStrings_ofList (texts : List (List Char)) :
    joinStrings "" (texts.map String.ofList) = String.ofList texts.flatten := by
  induction texts with
  | nil => rfl
  | cons cs texts ih =>
    cases texts with
    | nil => simp [joinStrings]
    | cons ds texts =>
      rw [List.map_cons, List.map_cons, joinStrings, ← List.map_cons, ih]
      simp

theorem items_arr {α : Type} (as : List α) (value : α → Json) :
    Value.items (.json (.arr (as.map value))) = .ok (as.map fun a => .json (value a)) := by
  simp [Value.items, Value.items?]

theorem itemsWith_true (items : List Value) :
    itemsWith env (.name x) (.constant (.bool true)) items = .ok items := by
  induction items with
  | nil => rfl
  | cons v items ih =>
    rw [itemsWith, ih]
    rfl

/-- A loop over all items of a value: the body is rendered for each item, with the state of the
loop. -/
theorem Renders.each {α : Type} {as : List α} {value : α → Value} {f : Nat → α → List Char}
    {body : List Node} (he : Evaluates env e v) (hv : v.items = .ok (as.map value))
    (hbody : ∀ i a, as[i]? = some a →
      Renders ((env.bind "loop" (.loop i (as.map value))).bind x (value a)) body (f i a))
    (h : Renders env rest cs) :
    Renders env (.each (.name x) e (.constant (.bool true)) body [] :: rest)
      ((as.mapIdx f).flatten ++ cs) := by
  have htexts : (as.map value).zipIdx.mapM (fun p => renderNodes
      ((env.bind "loop" (.loop p.2 (as.map value))).bind x p.1) body) =
        .ok ((as.mapIdx f).map String.ofList) := by
    rw [List.zipIdx_map, List.mapM_map, List.mapIdx_eq_zipIdx_map, List.map_map]
    refine Except.mapM_eq_ok ?_
    rintro ⟨a, i⟩ hp
    exact hbody i a (List.mem_zipIdx_iff_getElem?.mp hp)
  refine renders_cons ?_ h
  rw [renderNode, he]
  simp only [bind, Except.bind, hv, itemsWith_true]
  cases as with
  | nil => rfl
  | cons a as =>
    rw [List.map_cons, List.isEmpty_cons, if_neg Bool.false_ne_true, ← List.map_cons,
      ← joinStrings_ofList]
    exact congrArg (Except.map (joinStrings "")) htexts

/-- A loop whose body does not ask for the state of the loop. -/
theorem Renders.eachItem {α : Type} {as : List α} {value : α → Value} {f : α → List Char}
    {body : List Node} (he : Evaluates env e v) (hv : v.items = .ok (as.map value))
    (hbody : ∀ l, ∀ a ∈ as, Renders ((env.bind "loop" l).bind x (value a)) body (f a))
    (h : Renders env rest cs) :
    Renders env (.each (.name x) e (.constant (.bool true)) body [] :: rest)
      (as.flatMap f ++ cs) := by
  have htexts : as.mapIdx (fun _ a => f a) = as.map f := by
    refine List.ext_getElem? fun i => ?_
    rw [List.getElem?_mapIdx, List.getElem?_map]
  rw [List.flatMap_def, ← htexts]
  refine Renders.each he hv (fun i a ha => ?_) h
  exact hbody _ a (List.mem_of_getElem? ha)

/-! ## Breaking off -/

/-- The nodes are not rendered: an output ends rendering, since its value cannot be shown. -/
def Breaks (env : Environment) (nodes : List Node) (cause : Json.Unshown) : Prop :=
  renderNodes env nodes = .error (.unshown cause)

variable {cause : Json.Unshown}

theorem Breaks.here {node : Node} (h : renderNode env node = .error (.unshown cause)) :
    Breaks env (node :: rest) cause := by
  rw [Breaks, renderNodes_cons, h]
  rfl

theorem Breaks.text (s : String) (h : Breaks env rest cause) :
    Breaks env (.text s :: rest) cause := by
  rw [Breaks, renderNodes_cons, h]
  rfl

theorem Breaks.behindOutput (hplain : env.escaping = false) (he : Evaluates env e v)
    (hshown : v.unshown? env.limit = none) (hv : v.display = .ok s) (h : Breaks env rest cause) :
    Breaks env (.output e :: rest) cause := by
  rw [Breaks, renderNodes_cons, renderNode_output, he, h]
  simp [bind, Except.bind, Environment.write, hplain, hshown, hv]

/-- An output of a value that cannot be shown. -/
theorem Breaks.output (he : Evaluates env e v) (hcause : v.unshown? env.limit = some cause) :
    Breaks env (.output e :: rest) cause := by
  refine .here ?_
  rw [renderNode_output, he]
  simp only [bind, Except.bind, Environment.write, hcause]

theorem Breaks.branch (he : Evaluates env e v) (hv : v.truthy = .ok true)
    (h : Breaks env yes cause) : Breaks env (.branch e yes no :: rest) cause := by
  refine .here ?_
  rw [renderNode_branch, he]
  simp only [bind, Except.bind, hv]
  exact h

/-- A loop whose body breaks off for one item, and for no item ends in another way than that. -/
theorem Breaks.eachItem {α : Type} {as : List α} {value : α → Value} {body : List Node}
    (he : Evaluates env e v) (hv : v.items = .ok (as.map value))
    (hbody : ∀ l, ∀ a ∈ as, (∃ cs, Renders ((env.bind "loop" l).bind x (value a)) body cs) ∨
      Breaks ((env.bind "loop" l).bind x (value a)) body cause)
    (hbreaks : ∃ a ∈ as, ∀ l, Breaks ((env.bind "loop" l).bind x (value a)) body cause) :
    Breaks env (.each (.name x) e (.constant (.bool true)) body [] :: rest) cause := by
  have htexts : (as.map value).zipIdx.mapM (fun p => renderNodes
      ((env.bind "loop" (.loop p.2 (as.map value))).bind x p.1) body) =
        .error (.unshown cause) := by
    rw [List.zipIdx_map, List.mapM_map]
    refine Except.mapM_eq_error ?_ ?_
    · rintro ⟨a, i⟩ hp
      exact (hbody _ a (List.fst_mem_of_mem_zipIdx hp)).imp_left fun ⟨cs, h⟩ => ⟨_, h⟩
    · obtain ⟨a, ha, h⟩ := hbreaks
      obtain ⟨i, hi⟩ := List.getElem?_of_mem ha
      exact ⟨(a, i), List.mem_zipIdx_iff_getElem?.mpr hi, h _⟩
  refine .here ?_
  rw [renderNode, he]
  simp only [bind, Except.bind, hv, itemsWith_true]
  cases as with
  | nil =>
    obtain ⟨_, hmem, -⟩ := hbreaks
    cases hmem
  | cons a as =>
    rw [List.map_cons, List.isEmpty_cons, if_neg Bool.false_ne_true, ← List.map_cons]
    exact congrArg (Except.map (joinStrings "")) htexts

end Phrasebook.Template
