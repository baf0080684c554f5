import Descent.Grammar.Eval

/-! Sessions: a grammar, its rules, and what is done with them.

A session builds its main grammar once and then applies it, or the parser of one
of its rules, step by step. Cells that were built in one step stay so for the
next ones, also after a fault, which ends a step and not the session. -/
namespace Descent

/-- A grammar in use: the main parser and the world that the steps share. -/
structure Session where
  setting : Setting
  main : Grammar
  world : World Heap

namespace Session

/-- Which parser of a session is meant. -/
inductive Target where
  | main
  | rule (name : String)

/-- What kind of parser something is. -/
inductive Shape where
  | immediate
  | deferred (forced : Bool)
deriving BEq, DecidableEq, Repr

def Shape.display : Shape → String
  | immediate => "Parser(immediate)"
  | deferred false => "Parser(deferred)"
  | deferred true => "Parser(deferred (forced))"

/-- What is to be done. -/
inductive Step where
  /-- Runs a parser over a text; if `twice`, once more, to compare the replies. -/
  | run (target : Target) (config : Config) (state : Value) (text : Text) (twice : Bool)
  /-- Applies a parser outside of any run, from an offset of a text. -/
  | apply (target : Target) (state : Value) (text : Text) (offset : Nat)
  | shape (target : Target)
  | builds

/-- What came of it. -/
inductive Answer where
  /-- The reply of a run, and whether a second one gave the same. -/
  | ran (reply : Reply Value Value) (same : Option Bool)
  | applied (reply : Reply Value Value)
  | shape (shape : Shape)
  | builds (counts : List (String × Nat))
  | fault (cause : Fault)
  | outOfFuel

/-- Builds the main grammar. -/
def start (fuel : Nat) (setting : Setting) (main : Grammar) : Result (World Heap) Session :=
  (Grammar.build setting (Grammar.probeWith (Grammar.eval setting fuel)) main
    setting.initialWorld).next fun main world => .done ⟨setting, main, world⟩ world

/-- The grammar of a target, as it was built. -/
def grammar (session : Session) : Target → Grammar
  | .main => session.main
  | .rule name => match session.setting.cellOf? name with
    | some id => .cell id
    | none => .fail (Grammar.noSuchRule name)

def parser (session : Session) (fuel : Nat) (target : Target) : Parser (World Heap) Value Value :=
  Grammar.eval session.setting fuel (session.grammar target)

/-- Ends a step: the world is kept, and a fault is an answer. -/
def conclude (session : Session) : Result (World Heap) Answer → Answer × Session
  | .done answer world => (answer, { session with world })
  | .fault cause world => (.fault cause, { session with world })
  | .outOfFuel => (.outOfFuel, session)

/-- Runs a parser, and once more if asked for. -/
def run (session : Session) (fuel : Nat) (target : Target) (config : Config) (state : Value)
    (text : Text) (twice : Bool) : Result (World Heap) Answer :=
  let once := Parser.run config (session.parser fuel target) (session.setting.written state) ⟨text, 0⟩
  (once session.world).next fun reply world =>
    if twice then
      (once world).next fun again world => .done (.ran reply (some (reply.same again))) world
    else .done (.ran reply none) world

/-- Applies a parser from an offset. -/
def apply (session : Session) (fuel : Nat) (target : Target) (state : Value) (text : Text)
    (offset : Nat) : Result (World Heap) Answer :=
  match (Stream.start ⟨text, 0⟩).advance offset with
  | .error cause => .fault cause session.world
  | .ok stream =>
    (session.parser fuel target (session.setting.written state) stream session.world).next
      fun reply world => .done (.applied reply) world

/-- What kind of parser a target is, and whether it was built. -/
def shape (session : Session) (target : Target) : Shape :=
  match session.grammar target with
  | .cell id => .deferred (session.world.heap.isBuilt id)
  | _ => .immediate

/-- Does a step. -/
def step (session : Session) (fuel : Nat) : Step → Answer × Session
  | .run target config state text twice =>
    session.conclude (session.run fuel target config state text twice)
  | .apply target state text offset =>
    session.conclude (session.apply fuel target state text offset)
  | .shape target => (.shape (session.shape target), session)
  | .builds => (.builds session.world.heap.builds, session)

/-- Does steps in order. -/
def steps (session : Session) (fuel : Nat) : List Step → List Answer
  | [] => []
  | step :: more =>
    let (answer, session) := session.step fuel step
    answer :: session.steps fuel more

/-- The session when steps have been done. -/
def after (session : Session) (fuel : Nat) (steps : List Step) : Session :=
  steps.foldl (fun session step => (session.step fuel step).2) session

/-- A step is answered in the session that the steps before it leave. -/
theorem steps_append (session : Session) (fuel : Nat) (before more : List Step) :
    session.steps fuel (before ++ more) =
      session.steps fuel before ++ (session.after fuel before).steps fuel more := by
  induction before generalizing session with
  | nil => rfl
  | cons step before ih => simp only [List.cons_append, steps, after, List.foldl_cons, ih]

end Session

end Descent
