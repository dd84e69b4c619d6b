/-
Issues that need no file. If no note of an issue points into a file then showing the issue reads none, and what is
remembered of files stays as it is. Law: a report of such issues can always show them and complain of them.
-/
import StructuralTyping.Report.Complaint

namespace StructuralTyping

/-- No note of the issue points into a file. -/
def Issue.Pathless (issue : Issue) : Prop := ∀ note ∈ issue.notes, note.path = none

theorem Issue.pathless_of_notes_nil {issue : Issue} (h : issue.notes = []) : issue.Pathless := by simp [Pathless, h]

theorem Issue.pathless_typeError {nature : String} {span : Option Span} (h : span.bind (·.path) = none) :
    (Issue.typeError nature span).Pathless :=
  List.forall_mem_singleton.2 h

section

variable (files : Files) {issues : List Issue} {issue : Issue} {notes : List Note} {note : Note}

theorem Note.text_of_path_eq_none (h : note.path = none) : ∃ text, note.text files = pure text := by
  obtain ⟨span, caption⟩ := note
  cases span with
  | none => exact ⟨_, rfl⟩
  | some span =>
    replace h : span.path = none := h
    exact ⟨_, by simp only [Note.text, h]; rfl⟩

theorem Issue.noteLines_of_path_eq_none (h : ∀ note ∈ notes, note.path = none) (current : Option Path) :
    ∃ lines, noteLines files current notes = pure lines := by
  induction notes generalizing current with
  | nil => exact ⟨[], rfl⟩
  | cons note rest ih =>
    obtain ⟨text, ht⟩ := Note.text_of_path_eq_none files (h note (by simp))
    obtain ⟨lines, hl⟩ := ih (fun other ho => h other (by simp [ho])) (note.path.or current)
    exact ⟨_, by rw [noteLines, ht, pure_bind, hl, pure_bind]⟩

theorem Issue.Pathless.text (h : issue.Pathless) : ∃ text, issue.text files = pure text := by
  obtain ⟨lines, hl⟩ := noteLines_of_path_eq_none files h none
  exact ⟨_, by rw [Issue.text, hl, pure_bind]⟩

theorem Issue.mapM_text_of_pathless (h : ∀ issue ∈ issues, issue.Pathless) :
    ∃ shown, issues.mapM (Issue.text files) = pure shown := by
  induction issues with
  | nil => exact ⟨[], rfl⟩
  | cons issue rest ih =>
    obtain ⟨text, ht⟩ := (h issue (by simp)).text files
    obtain ⟨more, hm⟩ := ih fun other ho => h other (by simp [ho])
    exact ⟨text :: more, by rw [List.mapM_cons, ht, pure_bind, hm, pure_bind]⟩

theorem Report.fault_printIssues (h : ∀ issue ∈ issues, issue.Pathless) (recent : Recent) :
    (printIssues files recent issues).1.fault = none := by
  induction issues generalizing recent with
  | nil => rfl
  | cons issue rest ih =>
    obtain ⟨text, ht⟩ := (h issue (by simp)).text files
    rw [printIssues, ht]
    exact ih (fun other ho => h other (by simp [ho])) recent

/-- Nothing stops the printing of issues that need no file. -/
theorem Report.fault_complain {report : Report} (h : ∀ issue ∈ report.issues, issue.Pathless) (pick : Pick) :
    (report.complain files pick).1.fault = none := by
  simp only [complain]
  split
  · rfl
  · exact fault_printIssues files h report.recent

end

end StructuralTyping
