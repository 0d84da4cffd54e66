import Provenance.CommandLine
import Provenance.Proofs.Delivery.Rounds
import Provenance.Proofs.Json.OneLine

/-!
# Events on lines

The text of an event is never empty and has no control characters, so a newline in the output is
always the end of an event.  Whoever cuts the output at its newlines has the texts of the events
again, in their order and with nothing behind the last one (`Delivery.Output.lines_deliverAll`).

What a replay writes are lines of this kind, of the events that have come through the queue and
whose writing has succeeded.
-/

namespace Provenance

/-! ## The text of an event -/

lemma Event.noControls_toText (e : Event) : Text.NoControls e.toText.toList :=
  Json.noControls_render e.toJson

lemma Event.toText_ne_empty (e : Event) : e.toText ≠ "" := by
  have hbrace : '\x7b' ∈ e.toText.toList := by
    simp [Event.toText, Event.toJson, Json.render, Json.write]
  intro hempty
  rw [hempty] at hbrace
  cases hbrace

namespace Delivery

/-! ## Lines -/

/-- Lines are found again by the newlines that end them. -/
lemma splitOn_lines {lines : List (List Char)} (h : ∀ l ∈ lines, '\n' ∉ l) :
    (lines.flatMap (· ++ ['\n'])).splitOn '\n' = lines ++ [[]] := by
  induction lines with
  | nil => rfl
  | cons l lines ih =>
      obtain ⟨hl, hlines⟩ := List.forall_mem_cons.1 h
      calc ((l :: lines).flatMap (· ++ ['\n'])).splitOn '\n'
          = (l ++ '\n' :: lines.flatMap (· ++ ['\n'])).splitOn '\n' := by simp
        _ = l :: (lines.flatMap (· ++ ['\n'])).splitOn '\n' :=
          List.splitOn_append_cons_self_of_not_mem hl _
        _ = l :: lines ++ [[]] := by rw [ih hlines, List.cons_append]

namespace Output

/-- Lines are added to what has been written, each with its newline. -/
lemma toList_foldl_line (o : Output) (lines : List String) : (lines.foldl line o).text.toList =
    o.text.toList ++ (lines.map String.toList).flatMap (· ++ ['\n']) := by
  induction lines generalizing o with
  | nil => simp
  | cons l lines ih => simp [ih, line]

lemma deliverAll_eq (o : Output) (es : List Event) :
    o.deliverAll es = (es.map Event.toText).foldl line o := by
  rw [List.foldl_map]
  rfl

/-- **The lines of the events are found again.** -/
lemma splitOn_deliverAll (es : List Event) :
    (empty.deliverAll es).text.toList.splitOn '\n' = es.map (·.toText.toList) ++ [[]] := by
  have hlines : ∀ l ∈ es.map (·.toText.toList), '\n' ∉ l := by
    intro l hl
    obtain ⟨e, -, rfl⟩ := List.mem_map.1 hl
    exact e.noControls_toText.newline_not_mem
  rw [deliverAll_eq, toList_foldl_line, List.map_map]
  exact splitOn_lines hlines

end Output

/-! ## The events that are written -/

namespace Channel

/-- The events that the task has not settled yet. -/
def waiting (c : Channel) : List Event :=
  c.inHand.toList ++ c.queue

variable {c : Channel} {e : Event}

lemma waiting_receive (c : Channel) : c.receive.waiting = c.waiting := by
  rcases c.receive_cases with ⟨hsame, -⟩ | ⟨-, hhand, e, queue, hqueue, hreceive⟩
  · rw [hsame]
  · simp [waiting, hreceive, hhand, hqueue]

/-- The event in hand is settled first. -/
lemma waiting_settle (h : c.inHand = some e) (result : Except Failure Unit) :
    c.waiting = e :: (c.settle result).1.waiting := by
  rcases c.settle_cases result with ⟨hnone, -⟩ | ⟨_, _, _, -, -, hsettle⟩
  · rw [h] at hnone
    cases hnone
  · simp [waiting, hsettle, h]

/-- **Nothing is accepted but what was waiting, in its order.** -/
lemma accepted_deliver (c : Channel) (k : Collector) (limit : ℕ) :
    (c.deliver k limit).2.1.accepted ++ (c.deliver k limit).1.waiting =
      k.accepted ++ c.waiting := by
  induction limit generalizing c k with
  | zero => rfl
  | succ limit ih =>
      rcases c.deliver_succ_cases k limit with
        ⟨e, result, k', hhand, haccept, hchannel, hcollector⟩ | hstop
      · calc (c.deliver k (limit + 1)).2.1.accepted ++ (c.deliver k (limit + 1)).1.waiting
            = k'.accepted ++ (c.receive.settle result).1.waiting := by
              rw [hchannel, hcollector, ih]
          _ = k.accepted ++ e :: (c.receive.settle result).1.waiting := by
              rw [accepted_of_accept? haccept, List.append_assoc, List.singleton_append]
          _ = k.accepted ++ c.waiting := by rw [← waiting_settle hhand, waiting_receive]
      · rw [hstop, waiting_receive]

/-- What is emitted is kept or dropped. -/
lemma exists_waiting_emit (c : Channel) (e : Event) :
    ∃ kept, kept.Sublist [e] ∧ (c.emit e).1.waiting = c.waiting ++ kept := by
  rcases c.emit_cases e with ⟨-, hdrop⟩ | ⟨-, -, hkeep⟩
  · exact ⟨[], List.nil_sublist _, by simp [hdrop, waiting]⟩
  · exact ⟨[e], .refl _, by simp [hkeep, waiting]⟩

lemma exists_waiting_emitAll (c : Channel) (es : List Event) :
    ∃ kept, kept.Sublist es ∧ (CommandLine.emitAll c es).1.waiting = c.waiting ++ kept := by
  induction es generalizing c with
  | nil => exact ⟨[], .refl _, (List.append_nil _).symm⟩
  | cons e es ih =>
      obtain ⟨kept, hkept, hemit⟩ := c.exists_waiting_emit e
      obtain ⟨later, hlater, hrest⟩ := ih (c.emit e).1
      refine ⟨kept ++ later, hkept.append hlater, ?_⟩
      show (CommandLine.emitAll (c.emit e).1 es).1.waiting = _
      rw [hrest, hemit, List.append_assoc]

lemma waiting_emitAll_new_sublist (capacity : ℕ) (es : List Event) :
    (CommandLine.emitAll (new capacity) es).1.waiting.Sublist es := by
  obtain ⟨kept, hkept, hwaiting⟩ := (new capacity).exists_waiting_emitAll es
  rw [hwaiting]
  exact hkept

/-- A collector that had no events has some of those that were waiting. -/
lemma accepted_drain_sublist (c : Channel) {k : Collector} (hk : k.accepted = []) :
    (c.drain k).2.1.accepted.Sublist c.waiting := by
  have haccepted := c.accepted_deliver k (c.queue.length + 2)
  rw [hk, List.nil_append] at haccepted
  rw [← haccepted]
  exact List.sublist_append_left ..

end Channel

lemma map_fst_filter_zipIdx_sublist {α : Type*} (p : α × ℕ → Bool) (xs : List α) :
    ((xs.zipIdx.filter p).map Prod.fst).Sublist xs := by
  have hmap : ((xs.zipIdx.filter p).map Prod.fst).Sublist (xs.zipIdx.map Prod.fst) :=
    List.filter_sublist.map _
  rwa [List.zipIdx_map_fst] at hmap

/-- A replay writes some of the events that it emits, in their order. -/
lemma exists_written (s : CommandLine.Surroundings) (es : List Event) (notices : List Notice) :
    ∃ written : List Event, written.Sublist es ∧
      (CommandLine.deliver s es notices).output = written.map Event.toText := by
  have haccepted := (CommandLine.emitAll (.new defaultCapacity) es).1.accepted_drain_sublist
    (rfl : (⟨none, s.write, []⟩ : Collector).accepted = [])
  exact ⟨_, (map_fst_filter_zipIdx_sublist _ _).trans
    (haccepted.trans (Channel.waiting_emitAll_new_sublist defaultCapacity es)), rfl⟩

namespace Output

/-- **Events are written one to a line.**  Whatever they say, their texts have no control characters
and are not empty; so of any events that are written one after the other, the output gives back one
line for each, in their order, when it is cut at its newlines, and nothing behind the last one.  The
output of a replay is of this kind. -/
theorem lines_deliverAll (es : List Event) :
    (∀ e : Event, Text.NoControls e.toText.toList ∧ e.toText ≠ "") ∧
      (empty.deliverAll es).text.toList.splitOn '\n' = es.map (·.toText.toList) ++ [[]] ∧
      ∀ (s : CommandLine.Surroundings) (notices : List Notice),
        ∃ written : List Event, written.Sublist es ∧
          (CommandLine.deliver s es notices).output = written.map Event.toText ∧
          (CommandLine.deliver s es notices).text = (empty.deliverAll written).text := by
  refine ⟨fun e => ⟨e.noControls_toText, e.toText_ne_empty⟩, splitOn_deliverAll es,
    fun s notices => ?_⟩
  obtain ⟨written, hwritten, houtput⟩ := exists_written s es notices
  exact ⟨written, hwritten, houtput, by rw [CommandLine.Report.text, houtput, deliverAll_eq]⟩

end Output

end Delivery

end Provenance
