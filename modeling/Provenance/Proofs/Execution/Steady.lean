import Provenance.Proofs.Execution.Trace

/-!
# Configurations that do not change

What a binding finds depends on what the configuration sources of the graph give at that moment,
and so on how often they have been loaded before, for whichever job.  A *steady* source gives the
same at every load.  Over a graph of steady sources a binding finds the same whatever went before
(`bind_eq_of_isSteady`), so a history emits the same events as it does when nobody has loaded
anything before (`events_map_unloaded`).
-/

namespace Provenance

/-- The source gives the same at every load. -/
def Configuration.Source.IsSteady (s : Configuration.Source) : Prop :=
  ∀ m n, s.load m = s.load n

/-- All sources of the graph are steady. -/
def Graph.IsSteady (g : Graph) : Prop :=
  ∀ v b, (g.node v).binding = some b → b.source.IsSteady

lemma Configuration.Source.isSteady_ofConfiguration (c : Configuration) :
    (ofConfiguration c).IsSteady := fun _ _ => rfl

namespace Resolver

variable {g : Graph}

lemma resolve_eq_of_isSteady (r : Resolver) (hg : g.IsSteady) (v : g.Vertex) (m n : ℕ) :
    r.resolve (g.node v) m = r.resolve (g.node v) n := by
  unfold resolve
  cases hb : (g.node v).binding with
  | none => rfl
  | some b =>
      have hload : b.source.load m = b.source.load n := hg v b hb m n
      simp only [hload]

lemma survey_eq_of_isSteady (r : Resolver) (hg : g.IsSteady) (vs before before' : List g.Vertex) :
    r.survey g before vs = r.survey g before' vs := by
  induction vs generalizing before before' with
  | nil => rfl
  | cons v vs ih =>
      have hv : r.resolve (g.node v) (g.loadCount before v) =
          r.resolve (g.node v) (g.loadCount before' v) :=
        resolve_eq_of_isSteady r hg v _ _
      unfold survey
      rw [hv, ih before before', ih (before ++ [v]) (before' ++ [v])]

end Resolver

namespace Execution

/-- The call, if it is a binding, is one to a graph of steady sources. -/
def Call.IsSteady : Call → Prop
  | .bind j _ => j.graph.IsSteady
  | _ => True

/-- The call as it is when no configuration has been loaded before. -/
def Call.unloaded : Call → Call
  | .bind j _ => .bind j []
  | c => c

variable {a : Agent}

lemma bind_eq_of_isSteady (x : Execution) (a : Agent) {j : JobGraph} (hj : j.graph.IsSteady)
    (before before' : List j.graph.Vertex) : x.bind a j before = x.bind a j before' := by
  unfold bind
  rw [a.resolver.survey_eq_of_isSteady hj j.flatten before before']

lemma call_unloaded (x : Execution) {c : Call} (hc : c.IsSteady) :
    x.call a c.unloaded = x.call a c := by
  cases c with
  | bind j before =>
      have hbind : x.bind a j [] = x.bind a j before := bind_eq_of_isSteady x a hc [] before
      simp only [Call.unloaded, call, hbind]
  | start millis now => rfl
  | finish millis outcome now => rfl

/-- **Earlier loads leave no trace** in the events of a history, if the sources are steady. -/
lemma events_map_unloaded (x : Execution) {cs : List Call} (hcs : ∀ c ∈ cs, c.IsSteady) :
    x.events a (cs.map Call.unloaded) = x.events a cs := by
  induction cs generalizing x with
  | nil => rfl
  | cons c cs ih =>
      have hc : x.call a c.unloaded = x.call a c := call_unloaded x (hcs c List.mem_cons_self)
      rw [List.map_cons, events, events, hc, ih _ fun d hd => hcs d (List.mem_cons_of_mem _ hd)]

end Execution

end Provenance
