import Mentorship.Matching.Tables
import Mentorship.Proofs.Sheet.File

/-! The tables of a batch read back. Each has its columns named in small letters and a field per
column in every row, so what is written comes back row by row, whatever the texts in it are. -/

namespace Mentorship.Matching.Tables

open Sheet (IsTable)
open Text

theorem isTable_placements : IsTable placementColumns placementRow where
  names := List.all_eq_true.mp rfl
  wide := by decide
  length_row _ := rfl

theorem isTable_pool : IsTable poolColumns poolRow where
  names := List.all_eq_true.mp rfl
  wide := by decide
  length_row _ := rfl

theorem isTable_log : IsTable logColumns fieldsRow where
  names := List.all_eq_true.mp rfl
  wide := by decide
  length_row _ := rfl

theorem isTable_trace : IsTable traceColumns traceRow where
  names := List.all_eq_true.mp rfl
  wide := by decide
  length_row _ := rfl

theorem ofBytes_log {es : List LogEntry} (hes : es ≠ []) :
    Sheet.ofBytes (log es).toUTF8.toList =
      .ok ⟨logColumns, es.map fun e => (fieldsRow e.fields).map trim⟩ := by
  have hfields : es.map (·.fields) ≠ [] := by simpa using hes
  rw [log, logOfFields, isTable_log.ofBytes_textOf hfields, List.map_map]
  rfl

/-- Every table of a batch that has a row is read back whole: its columns by their names, and for
each item, in order, one row with the texts of its fields, less the blanks at their ends. The items
need not come from a batch, and their texts may hold any characters. -/
theorem exports_read_back :
    (∀ xs : List Placement, xs ≠ [] →
      Sheet.ofBytes (placements xs).toUTF8.toList =
        .ok ⟨placementColumns, xs.map fun x => (placementRow x).map trim⟩) ∧
    (∀ ms : List Mentor, ms ≠ [] →
      Sheet.ofBytes (pool ms).toUTF8.toList =
        .ok ⟨poolColumns, ms.map fun m => (poolRow m).map trim⟩) ∧
    (∀ fs : List LogFields, fs ≠ [] →
      Sheet.ofBytes (logOfFields fs).toUTF8.toList =
        .ok ⟨logColumns, fs.map fun f => (fieldsRow f).map trim⟩) ∧
    (∀ es : List LogEntry, es ≠ [] →
      Sheet.ofBytes (log es).toUTF8.toList =
        .ok ⟨logColumns, es.map fun e => (fieldsRow e.fields).map trim⟩) ∧
    (∀ rs : List TraceRecord, rs ≠ [] →
      Sheet.ofBytes (trace rs).toUTF8.toList =
        .ok ⟨traceColumns, rs.map fun r => (traceRow r).map trim⟩) :=
  ⟨fun _ => isTable_placements.ofBytes_textOf, fun _ => isTable_pool.ofBytes_textOf,
    fun _ => isTable_log.ofBytes_textOf, fun _ => ofBytes_log,
    fun _ => isTable_trace.ofBytes_textOf⟩

/-- An identifier with all the marks of a table, a byte order mark and blanks around it. -/
def markedId : String := "\uFEFF a,\"b\"\r\nc \t"

/-- The marks come back, the outer blanks and an absent field do not. -/
theorem exports_read_back_marked :
    Sheet.ofBytes (placements [⟨markedId, ""⟩, ⟨" \"", "x"⟩]).toUTF8.toList =
        .ok ⟨["student_id", "mentor_id"], [["\uFEFF a,\"b\"\r\nc", ""], ["\"", "x"]]⟩ ∧
    Sheet.ofBytes
        (trace [⟨markedId, .type, ",", .equals, "", 1, 0, false⟩]).toUTF8.toList =
      .ok ⟨traceColumns, [["\uFEFF a,\"b\"\r\nc", "type", ",", "==", "", "1", "0", "false"]]⟩ ∧
    (∃ sheet, Sheet.ofBytes (log [⟨0, markedId, [], .unplaced .full .capacityGate "," []⟩]
        ).toUTF8.toList = .ok sheet ∧ sheet.cell 0 1 = "\uFEFF a,\"b\"\r\nc" ∧
      sheet.cell 0 3 = "" ∧ sheet.cell 0 11 = ",") ∧
    (∃ sheet, Sheet.ofBytes (pool [⟨markedId, default, 2, 2, 0⟩]).toUTF8.toList = .ok sheet ∧
      sheet.rows.map (·.take 2) = [["\uFEFF a,\"b\"\r\nc", "2"]]) := by
  obtain ⟨hplacements, hpool, -, hlog, htrace⟩ := exports_read_back
  refine ⟨?_, ?_, ⟨_, hlog _ (List.cons_ne_nil _ _), ?_⟩, ⟨_, hpool _ (List.cons_ne_nil _ _), ?_⟩⟩
  · rw [hplacements _ (List.cons_ne_nil _ _)]
    rfl
  · rw [htrace _ (List.cons_ne_nil _ _)]
    rfl
  · exact ⟨rfl, rfl, rfl⟩
  · rfl

end Mentorship.Matching.Tables
