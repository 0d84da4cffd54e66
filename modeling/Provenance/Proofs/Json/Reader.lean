import Provenance.Json.Reader
import Provenance.Proofs.Json.Token

/-!
# Reading what has been written

The reader keeps what is still open on a stack of its own, so what it makes of the tokens of a value
has to be said for every stack: where a value may begin, it goes on to the end of that value and
leaves the stack as it is (`foldlM_step_tokens`).  Inside an array or an object it adds the
remaining parts to those that are finished, which lie on the stack in reverse.

The value that is read is the one that was written, every field in its place (`read?_render`).
-/

namespace Provenance.Json

open ReaderState Written

/-- The token that begins a value is read behind an opening bracket as it is elsewhere. -/
lemma foldlM_step_opened (v : Json) (ts : List Token) (stack : List Frame) :
    (v.tokens ++ ts).foldlM step (opened stack) =
      (v.tokens ++ ts).foldlM step (value (.array [] :: stack)) := by
  cases v with
  | array items => cases items <;> rfl
  | object fields => cases fields <;> rfl
  | _ => rfl

mutual

/-- **The reader goes from the beginning of a value to its end.** -/
lemma foldlM_step_tokens : ∀ (v : Json) (ts : List Token) (stack : List Frame),
    (v.tokens ++ ts).foldlM step (value stack) = ts.foldlM step (ended (ofJson v) stack)
  | null, ts, stack => rfl
  | bool b, ts, stack => rfl
  | number n, ts, stack => rfl
  | text s, ts, stack => rfl
  | array [], ts, stack => rfl
  | array (v :: vs), ts, stack => by
      calc ((array (v :: vs)).tokens ++ ts).foldlM step (value stack)
          = (v.tokens ++ (itemTokens vs ++ ts)).foldlM step (opened stack) := by
            rw [tokens, List.cons_append, List.append_assoc, List.foldlM_cons]
            rfl
        _ = (itemTokens vs ++ ts).foldlM step (ended (ofJson v) (.array [] :: stack)) := by
            rw [foldlM_step_opened, foldlM_step_tokens v]
        _ = ts.foldlM step (ended (ofJson (array (v :: vs))) stack) := by
            rw [foldlM_step_itemTokens vs]
            rfl
  | object [], ts, stack => rfl
  | object ((k, v) :: fs), ts, stack => by
      calc ((object ((k, v) :: fs)).tokens ++ ts).foldlM step (value stack)
          = (v.tokens ++ (fieldTokens fs ++ ts)).foldlM step
              (value (.object [] (some k) :: stack)) := by
            rw [tokens, List.cons_append, List.cons_append, List.cons_append, List.append_assoc]
            rfl
        _ = (fieldTokens fs ++ ts).foldlM step
              (ended (ofJson v) (.object [] (some k) :: stack)) := foldlM_step_tokens v _ _
        _ = ts.foldlM step (ended (ofJson (object ((k, v) :: fs))) stack) := by
            rw [foldlM_step_fieldTokens fs]
            rfl

lemma foldlM_step_itemTokens : ∀ (vs : List Json) (w : Written) (items : List Written)
    (ts : List Token) (stack : List Frame),
    (itemTokens vs ++ ts).foldlM step (ended w (.array items :: stack)) =
      ts.foldlM step (ended (.array ((w :: items).reverse ++ ofItems vs)) stack)
  | [], w, items, ts, stack => by
      rw [ofItems, List.append_nil]
      rfl
  | v :: vs, w, items, ts, stack => by
      calc (itemTokens (v :: vs) ++ ts).foldlM step (ended w (.array items :: stack))
          = (v.tokens ++ (itemTokens vs ++ ts)).foldlM step
              (value (.array (w :: items) :: stack)) := by
            rw [itemTokens, List.cons_append, List.append_assoc]
            rfl
        _ = (itemTokens vs ++ ts).foldlM step
              (ended (ofJson v) (.array (w :: items) :: stack)) := foldlM_step_tokens v _ _
        _ = ts.foldlM step (ended (.array ((w :: items).reverse ++ ofItems (v :: vs))) stack) := by
            rw [foldlM_step_itemTokens vs, List.reverse_cons, List.append_assoc, ofItems]
            rfl

lemma foldlM_step_fieldTokens : ∀ (fs : List (String × Json)) (w : Written)
    (fields : List (Option String × Written)) (k : Option String) (ts : List Token)
    (stack : List Frame),
    (fieldTokens fs ++ ts).foldlM step (ended w (.object fields k :: stack)) =
      ts.foldlM step (ended (.object (((k, w) :: fields).reverse ++ ofFields fs)) stack)
  | [], w, fields, k, ts, stack => by
      rw [ofFields, List.append_nil]
      rfl
  | (k', v) :: fs, w, fields, k, ts, stack => by
      calc (fieldTokens ((k', v) :: fs) ++ ts).foldlM step (ended w (.object fields k :: stack))
          = (v.tokens ++ (fieldTokens fs ++ ts)).foldlM step
              (value (.object ((k, w) :: fields) (some k') :: stack)) := by
            rw [fieldTokens, List.cons_append, List.cons_append, List.cons_append,
              List.append_assoc]
            rfl
        _ = (fieldTokens fs ++ ts).foldlM step
              (ended (ofJson v) (.object ((k, w) :: fields) (some k') :: stack)) :=
            foldlM_step_tokens v _ _
        _ = ts.foldlM step
              (ended (.object (((k, w) :: fields).reverse ++ ofFields ((k', v) :: fs))) stack) := by
            rw [foldlM_step_fieldTokens fs, List.reverse_cons, List.append_assoc, ofFields]
            rfl

end

lemma ofTokens?_tokens (v : Json) : ofTokens? v.tokens = some (ofJson v) := by
  have h := foldlM_step_tokens v [] []
  rw [List.append_nil, List.foldlM_nil] at h
  rw [ofTokens?, h]
  rfl

/-- **The text of a value is read as the value.** -/
lemma read?_render {v : Json} (h : v.IsIntegral) : Written.read? v.render = some (ofJson v) := by
  have hend : EndsNumber [] := by
    intro c hc
    cases hc
  have htokens : tokens? v.write = some v.tokens := by
    have hcut := tokens?_write v h hend
    rw [List.append_nil] at hcut
    rw [hcut, tokens?, Option.map_some, List.append_nil]
  rw [Written.read?, render, String.toList_ofList, htokens]
  exact ofTokens?_tokens v

end Provenance.Json
