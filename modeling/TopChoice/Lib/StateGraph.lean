/-
# Graphs of nodes over a state

A graph in the manner of LangGraph: a node reads the state and reports what it changes,
the report is merged into the state, and the edge out of the node, which is fixed or
chosen by a function of the state among labelled targets, says which node runs next.
One node runs in a step, and after so many steps without an end the run raises.

`run_fixed` and `run_choose` say what one step does; with them a run is unfolded along its
path.
-/

import TopChoice.Lib.Effects

namespace StateGraph

open Effects

/-- Where an edge leads: to a node, or to the end. -/
inductive Target (ν : Type) where
  | node (next : ν)
  | finish

/-- The edge out of a node. -/
inductive Edge (ν σ ε ω τ : Type) where
  /-- `add_edge`. -/
  | fixed (target : Target ν)
  /-- `add_conditional_edges`: the label the path function returns is looked up. -/
  | choose (path : σ → Program ε ω τ String) (targets : List (String × Target ν))

/-- A compiled graph: its nodes, how a report is merged, where it starts, and the edges. -/
structure Graph (ν σ π ε ω τ : Type) where
  node : ν → σ → Program ε ω τ π
  merge : σ → π → σ
  start : ν
  edge : ν → Edge ν σ ε ω τ
  /-- What is raised after too many steps. -/
  recursionError : ε
  /-- What is raised where no target has the label. -/
  missingLabel : String → ε

namespace Graph

variable {ν σ π ε ω τ : Type} (g : Graph ν σ π ε ω τ)

/-- The target with a label. -/
def target (targets : List (String × Target ν)) (label : String) : Program ε ω τ (Target ν) :=
  match targets.lookup label with
  | some target => pure target
  | none => .raise (g.missingLabel label)

/-- The target of an edge. -/
def follow (state : σ) : Edge ν σ ε ω τ → Program ε ω τ (Target ν)
  | .fixed target => pure target
  | .choose path targets => path state >>= g.target targets

/-- What follows at a target. -/
def goOn (rest : ν → σ → Program ε ω τ σ) (state : σ) : Target ν → Program ε ω τ σ
  | .node next => rest next state
  | .finish => pure state

/-- The run from a node, of at most so many steps. -/
def run : ℕ → ν → σ → Program ε ω τ σ
  | 0, _, _ => .raise g.recursionError
  | limit + 1, here, state => do
      let patch ← g.node here state
      let state := g.merge state patch
      g.follow state (g.edge here) >>= goOn (run limit) state

/-- `ainvoke`: the input is merged into what the checkpointer holds, and the graph runs. -/
def invoke (limit : ℕ) (stored : σ) (input : π) : Program ε ω τ σ :=
  g.run limit g.start (g.merge stored input)

variable {g}

/-- A step at a node with a fixed edge. -/
theorem run_fixed {here : ν} {target : Target ν} (h : g.edge here = .fixed target) (limit : ℕ)
    (state : σ) :
    g.run (limit + 1) here state =
      g.node here state >>= fun patch => goOn (g.run limit) (g.merge state patch) target := by
  rw [run, h]
  rfl

/-- A step at a node whose edge is chosen. -/
theorem run_choose {here : ν} {path : σ → Program ε ω τ String}
    {targets : List (String × Target ν)} (h : g.edge here = .choose path targets) (limit : ℕ)
    (state : σ) :
    g.run (limit + 1) here state =
      g.node here state >>= fun patch => path (g.merge state patch) >>= fun label =>
        g.target targets label >>= goOn (g.run limit) (g.merge state patch) := by
  rw [run, h]
  simp only [follow, bind_assoc]

end Graph

end StateGraph
