import Tangle.Stencil.Evaluation

/-!
# Names, parts and loops

The simplest expressions are names with accesses to their parts, such as `section.name`. Reading one
goes down through every level of operations and finds none, and its value is looked up part by part.
A loop over such a value shows its body once for each member, and nothing that is done in the body is
seen behind the loop.
-/

namespace Tangle.Stencil

namespace Expression

/-- The tokens of accesses to parts by their names. -/
def pathTokens (path : List Text) : List Token := path.flatMap fun n => [.sign .dot, .name n]

/-- A part of a part of an expression, and so on. -/
def part (e : Expression) (path : List Text) : Expression := path.foldl .attribute e

theorem length_pathTokens (path : List Text) : (pathTokens path).length = 2 * path.length := by
  induction path with
  | nil => rfl
  | cons n path ih =>
    show (pathTokens path).length + 1 + 1 = _
    rw [ih, List.length_cons]
    omega

/-- The fuel for the tokens of a name and its parts is enough on every level. -/
theorem lt_fuelFor_path (n : Text) (path : List Text) :
    path.length + 11 < fuelFor (.name n :: pathTokens path) := by
  rw [fuelFor, List.length_cons, length_pathTokens]
  omega

theorem readParts_path (e : Expression) (path : List Text) {fuel : Nat}
    (hfuel : path.length < fuel) :
    readParts fuel e (pathTokens path) = some (e.part path, []) := by
  induction path generalizing e fuel with
  | nil =>
    obtain ⟨fuel, rfl⟩ := Nat.exists_eq_succ_of_ne_zero (Nat.ne_zero_of_lt hfuel)
    rfl
  | cons n path ih =>
    obtain ⟨fuel, rfl⟩ := Nat.exists_eq_succ_of_ne_zero (Nat.ne_zero_of_lt hfuel)
    exact ih (.attribute e n) (Nat.lt_of_succ_lt_succ hfuel)

section Path

variable {n : Text} (h : constantOf? n = none) (path : List Text)

include h

theorem readUnary_path {fuel : Nat} (hfuel : path.length + 2 < fuel) :
    readUnary fuel (.name n :: pathTokens path) = some (part (.name n) path, []) := by
  obtain ⟨fuel, rfl⟩ := Nat.exists_eq_add_of_le' (show 3 ≤ fuel by omega)
  have hminus : readMinus (fuel + 2) (.name n :: pathTokens path) =
      some (.name n, pathTokens path) := by
    show readPrimary (fuel + 1) (.name n :: pathTokens path) = _
    rw [readPrimary, h]
  have hparts := readParts_path (.name n) path (show path.length < fuel + 2 by omega)
  rw [readUnary, hminus]
  simp only [Option.bind_eq_bind, Option.bind_some, hparts]
  rfl

/-- No level of operations finds one of its signs. -/
theorem readLevel_path (levels : List (Token → Option Binary)) {fuel : Nat}
    (hfuel : path.length + levels.length + 3 < fuel) :
    readLevel fuel levels (.name n :: pathTokens path) = some (part (.name n) path, []) := by
  induction levels generalizing fuel with
  | nil =>
    obtain ⟨fuel, rfl⟩ := Nat.exists_eq_succ_of_ne_zero (Nat.ne_zero_of_lt hfuel)
    exact readUnary_path h path (Nat.lt_of_succ_lt_succ hfuel)
  | cons level tighter ih =>
    rw [List.length_cons] at hfuel
    obtain ⟨fuel, rfl⟩ := Nat.exists_eq_add_of_le' (show 2 ≤ fuel by omega)
    rw [readLevel, ih (by omega)]
    rfl

variable (hnot : n ≠ ['n', 'o', 't'])

include hnot

theorem readOr_path {fuel : Nat} (hfuel : path.length + 10 < fuel) :
    readOr fuel (.name n :: pathTokens path) = some (part (.name n) path, []) := by
  obtain ⟨fuel, rfl⟩ := Nat.exists_eq_add_of_le' (show 4 ≤ fuel by omega)
  have hlevels : readLevel (fuel + 1) levels (.name n :: pathTokens path) =
      some (part (.name n) path, []) :=
    readLevel_path h path levels (show path.length + 4 + 3 < fuel + 1 by omega)
  have hreadNot : readNot (fuel + 2) (.name n :: pathTokens path) =
      some (part (.name n) path, []) := by
    rw [readNot]
    · rw [hlevels]
      rfl
    · simpa using hnot
  rw [readOr, readAnd, hreadNot]
  rfl

/-- **A name with its parts is read as it stands.** -/
theorem readWhole_path :
    readWhole (.name n :: pathTokens path) = some (part (.name n) path) := by
  have henough := lt_fuelFor_path n path
  obtain ⟨fuel, hfuel⟩ : ∃ fuel, fuelFor (.name n :: pathTokens path) = fuel + 2 :=
    Nat.exists_eq_add_of_le' (by omega)
  rw [hfuel] at henough
  rw [readWhole, hfuel, Expression.read, readOr_path h path hnot (by omega)]
  rfl

/-- A loop over a name with its parts says which name it gives to their members. -/
theorem readLoopHead_path {member : Text} (hmember : Statement.assignable? member = some member) :
    Statement.readLoopHead (.name member :: .name ['i', 'n'] :: .name n :: pathTokens path) =
      some ([member], part (.name n) path, none) := by
  have hnames (fuel : Nat) : Statement.readNames (fuel + 1)
      (.name member :: .name ['i', 'n'] :: .name n :: pathTokens path) =
        some ([member], .name ['i', 'n'] :: .name n :: pathTokens path) := by
    rw [Statement.readNames, hmember]
    rfl
  have hsource := readOr_path h path hnot (Nat.lt_of_succ_lt (lt_fuelFor_path n path))
  rw [Statement.readLoopHead, hnames]
  simp only [Option.bind_eq_bind, Option.bind_some, hsource]

end Path

/-! ## Values -/

/-- The value of a part is the part of the value. -/
theorem value_part (env : Environment) {e : Expression} {v : Value} (h : e.value env = some v)
    (path : List Text) :
    (e.part path).value env = some (path.foldl (fun v n => v.member (.ofText n)) v) := by
  induction path generalizing e v with
  | nil => exact h
  | cons n path ih =>
    apply ih
    rw [Expression.value, h]
    rfl

end Expression

/-! ## Blocks -/

namespace Statement

/-- The words that end the body of a loop. -/
def loopEnds : List Text := ["endfor", "else"].map String.toList

/-- A loop is read up to the word that ends it. -/
theorem readStatement_loop {fuel : Nat} {tokens : List Token} {names : List Text}
    {source : Expression} {segments rest : List Segment} {body : List Statement}
    (hhead : readLoopHead tokens = some (names, source, none))
    (hbody : readBlock fuel loopEnds segments = some (body, some ("endfor".toList, []), rest)) :
    readStatement (fuel + 1) "for".toList tokens segments =
      some (.loop names source none body [], rest) := by
  have hif : "for".toList ≠ "if".toList := by decide
  unfold loopEnds at hbody
  rw [readStatement, if_neg hif, if_pos rfl, hhead]
  simp only [Option.bind_eq_bind, Option.bind_some, hbody]
  rfl

section Block

variable {fuel : Nat} {stops : List Text} {segments rest after : List Segment}
variable {statements : List Statement} {stop : Option (Text × List Token)}

theorem readBlock_text (t : Text)
    (h : readBlock fuel stops rest = some (statements, stop, after)) :
    readBlock (fuel + 1) stops (.text t :: rest) = some (.text t :: statements, stop, after) := by
  rw [readBlock, h]
  rfl

theorem readBlock_expression {tokens : List Token} {e : Expression}
    (he : Expression.readWhole tokens = some e)
    (h : readBlock fuel stops rest = some (statements, stop, after)) :
    readBlock (fuel + 1) stops (.expression tokens :: rest) =
      some (.emit e :: statements, stop, after) := by
  rw [readBlock, he, Option.bind_eq_bind, Option.bind_some, h]
  rfl

theorem readBlock_stop {word : Text} (hword : stops.contains word = true) (tokens : List Token) :
    readBlock (fuel + 1) stops (.statement (.name word :: tokens) :: rest) =
      some ([], some (word, tokens), rest) := by
  rw [readBlock, if_pos hword]

theorem readBlock_loop {tokens : List Token} {names : List Text} {source : Expression}
    {body : List Statement} (hstops : stops.contains "for".toList = false)
    (hhead : readLoopHead tokens = some (names, source, none))
    (hbody : readBlock fuel loopEnds segments = some (body, some ("endfor".toList, []), rest))
    (h : readBlock (fuel + 1) stops rest = some (statements, stop, after)) :
    readBlock (fuel + 2) stops (.statement (.name "for".toList :: tokens) :: segments) =
      some (.loop names source none body [] :: statements, stop, after) := by
  rw [readBlock, hstops, if_neg Bool.false_ne_true, readStatement_loop hhead hbody]
  simp only [Option.bind_eq_bind, Option.bind_some, h]

end Block

end Statement

/-! ## Environments -/

/-- The name that tells where a loop is. -/
def loopName : Text := "loop".toList

namespace Environment

theorem lookup_assign (env : Environment) (name other : Text) (v : Value) :
    (env.assign name v).lookup other = if name = other then v else env.lookup other := by
  unfold lookup assign
  cases env.frames with
  | nil => by_cases h : name = other <;> simp [h]
  | cons frame outer => by_cases h : name = other <;> simp [h]

theorem escapes_assign (env : Environment) (name : Text) (v : Value) :
    (env.assign name v).escapes = env.escapes := by
  unfold assign
  cases env.frames <;> rfl

/-- An environment inside a loop over an outer one: names that the loop does not give stand for what
they stood for. -/
structure Inside (outer : Environment) (member : Text) (env : Environment) : Prop where
  escapes : env.escapes = outer.escapes
  lookup : ∀ name, name ≠ member → name ≠ loopName → env.lookup name = outer.lookup name

theorem Inside.assign {outer env : Environment} {member name : Text}
    (h : outer.Inside member env) (hname : name = member ∨ name = loopName) (v : Value) :
    outer.Inside member (env.assign name v) where
  escapes := (env.escapes_assign name v).trans h.escapes
  lookup := by
    intro other hmember hloop
    have hne : name ≠ other := by
      rintro rfl
      exact hname.elim hmember hloop
    rw [env.lookup_assign, if_neg hne]
    exact h.lookup other hmember hloop

end Environment

/-! ## Texts -/

namespace Statement

section Render

variable {env : Environment}

theorem render_text (t : Text) : (Statement.text t).render env = some (t, env) := by
  rw [Statement.render]

theorem render_emit {e : Expression} {v : Value} (h : e.value env = some v) :
    (Statement.emit e).render env = some (env.written v, env) := by
  rw [Statement.render, h]
  rfl

theorem renderAll_nil : renderAll env [] = some ([], env) := by
  rw [renderAll]

theorem renderAll_cons {statement : Statement} {more : List Statement} {own rest : Text}
    (hown : statement.render env = some (own, env)) (h : renderAll env more = some (rest, env)) :
    renderAll env (statement :: more) = some (own ++ rest, env) := by
  rw [renderAll, hown]
  simp only [Option.bind_eq_bind, Option.bind_some, h]

end Render

end Statement

theorem passing_none (env : Environment) (names : List Text) (members : List Value) :
    passing env names none members = some members := by
  induction members with
  | nil => rfl
  | cons v more ih =>
    rw [passing, ih]
    rfl

section Loop

variable {α : Type} {items : List α} {value : α → Value} (shown : α → Text)

/-- **Run.** Members that are each shown in a way that keeps an invariant are shown one after
another. -/
theorem iterate_eq {I : Environment → Prop}
    {step : Environment → Value → Nat → Option (Text × Environment)}
    (h : ∀ a ∈ items, ∀ env, I env → ∀ index,
      ∃ next, step env (value a) index = some (shown a, next) ∧ I next)
    {env : Environment} (henv : I env) (index : Nat) :
    iterate step index (items.map value) env = some (items.flatMap shown) := by
  induction items generalizing env index with
  | nil => rfl
  | cons a more ih =>
    obtain ⟨next, hstep, hnext⟩ := h a List.mem_cons_self env henv index
    have hmore := ih (fun b hb => h b (List.mem_cons_of_mem a hb)) hnext (index + 1)
    rw [List.map_cons, iterate, hstep, List.flatMap_cons]
    simp only [Option.bind_eq_bind, Option.bind_some, hmore]

/-- **A loop shows its body for each member**, and leaves the environment as it was. -/
theorem render_loop {env : Environment} (member : Text) {source : Expression}
    {body : List Statement} (hsource : source.value env = some (.list (items.map value)))
    (hbody : ∀ a ∈ items, ∀ inner, env.Inside member inner → inner.lookup member = value a →
      renderAll inner body = some (shown a, inner)) :
    (Statement.loop [member] source none body []).render env =
      some (items.flatMap shown, env) := by
  have hmembers : (Value.list (items.map value)).members? = some (items.map value) := rfl
  rw [Statement.render, hsource]
  simp only [Option.bind_eq_bind, Option.bind_some, hmembers, passing_none]
  cases items with
  | nil => rfl
  | cons first more =>
    -- each member is shown in the environment that the body of the one before it has left
    have hstart : env.Inside member { env with frames := [] :: env.frames } :=
      ⟨rfl, fun _ _ _ => rfl⟩
    rw [if_neg (by simp), iterate_eq shown ?_ hstart]
    · rfl
    intro a ha inner hinner index
    have hnamed := (hinner.assign (.inr rfl) (loopState (env.frames.length - 1)
      ((first :: more).map value) index)).assign (.inl rfl) (value a)
    refine ⟨_, ?_, hnamed⟩
    exact hbody a ha _ hnamed ((Environment.lookup_assign _ _ _ _).trans (if_pos rfl))

end Loop

end Tangle.Stencil
