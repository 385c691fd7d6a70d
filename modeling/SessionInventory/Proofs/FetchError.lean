import Mathlib.Data.List.Infix
import SessionInventory.Event

/-!
# What an explanation says

An explanation only grows: a cause is put behind it or left out (`exists_addCause_eq`). So what it
mentions once it mentions to the end, and in the end it mentions every cause
(`mentions_explain`). A text that mentions all causes is its own explanation
(`explain_of_mentions`), and so explaining an explanation by the same causes adds nothing.

`explain_complete` says what an explanation is made of: the text, and behind it the causes that are
news where they come up. The failures that carry all of their causes in their own wording are
reported as they are.
-/

namespace SessionInventory

/-- Whether a text has another one in it. -/
def Mentions (text part : String) : Prop := ∃ front back, text = front ++ part ++ back

theorem occursIn_toList_iff {part text : String} :
    occursIn part.toList text.toList = true ↔ Mentions text part := by
  rw [occursIn_iff]
  constructor
  · rintro ⟨front, back, h⟩
    refine ⟨.ofList front, .ofList back, String.toList_injective ?_⟩
    simpa using h.symm
  · rintro ⟨front, back, rfl⟩
    exact ⟨front.toList, back.toList, by simp⟩

instance (text part : String) : Decidable (Mentions text part) :=
  decidable_of_iff _ occursIn_toList_iff

theorem mentions_append_right (front part : String) : Mentions (front ++ part) part :=
  ⟨front, "", String.append_empty.symm⟩

/-- What a text mentions is mentioned by all that begins with the text. -/
theorem Mentions.append {text part : String} (h : Mentions text part) (more : String) :
    Mentions (text ++ more) part := by
  obtain ⟨front, back, rfl⟩ := h
  exact ⟨front, back ++ more, String.append_assoc ..⟩

/-! ## One more cause -/

theorem addCause_of_mentions {text cause : String} (h : Mentions text cause) :
    addCause text cause = text :=
  if_pos (occursIn_toList_iff.mpr h)

theorem addCause_of_not_mentions {text cause : String} (h : ¬Mentions text cause) :
    addCause text cause = text ++ (": " ++ cause) := by
  have hno : ¬occursIn cause.toList text.toList = true := fun ho => h (occursIn_toList_iff.mp ho)
  rw [addCause, if_neg hno, String.append_assoc]

/-- A cause takes nothing from an explanation. -/
theorem exists_addCause_eq (text cause : String) : ∃ more, addCause text cause = text ++ more := by
  by_cases h : Mentions text cause
  · exact ⟨"", by rw [addCause_of_mentions h, String.append_empty]⟩
  · exact ⟨": " ++ cause, addCause_of_not_mentions h⟩

theorem mentions_addCause (text cause : String) : Mentions (addCause text cause) cause := by
  by_cases h : Mentions text cause
  · rwa [addCause_of_mentions h]
  · rw [addCause_of_not_mentions h, ← String.append_assoc]
    exact mentions_append_right (text ++ ": ") cause

/-! ## All causes -/

theorem explain_append (text : String) (causes more : List String) :
    explain text (causes ++ more) = explain (explain text causes) more :=
  List.foldl_append

theorem explain_concat (text : String) (causes : List String) (cause : String) :
    explain text (causes ++ [cause]) = addCause (explain text causes) cause :=
  explain_append text causes [cause]

theorem exists_explain_eq (text : String) (causes : List String) :
    ∃ more, explain text causes = text ++ more := by
  induction causes generalizing text with
  | nil => exact ⟨"", String.append_empty.symm⟩
  | cons cause rest ih =>
    obtain ⟨first, hfirst⟩ := exists_addCause_eq text cause
    obtain ⟨later, hlater⟩ := ih (addCause text cause)
    refine ⟨first ++ later, ?_⟩
    show explain (addCause text cause) rest = _
    rw [hlater, hfirst, String.append_assoc]

/-- A cause that comes up stays in the explanation, whatever comes up later. -/
theorem mentions_explain (text : String) {causes : List String} {cause : String}
    (h : cause ∈ causes) : Mentions (explain text causes) cause := by
  obtain ⟨before, after, rfl⟩ := List.append_of_mem h
  have hsplit : before ++ cause :: after = before ++ [cause] ++ after := by simp
  rw [hsplit, explain_append, explain_concat]
  obtain ⟨more, hmore⟩ := exists_explain_eq (addCause (explain text before) cause) after
  rw [hmore]
  exact (mentions_addCause (explain text before) cause).append more

/-- Nothing is added to a text that mentions all causes. -/
theorem explain_of_mentions {text : String} {causes : List String}
    (h : ∀ cause ∈ causes, Mentions text cause) : explain text causes = text := by
  induction causes with
  | nil => rfl
  | cons cause rest ih =>
    obtain ⟨hcause, hrest⟩ := List.forall_mem_cons.mp h
    show explain (addCause text cause) rest = text
    rw [addCause_of_mentions hcause, ih hrest]

/-- The causes that the explanation by those before them does not mention, each with its place. -/
def news (text : String) (causes : List String) : List (String × Nat) :=
  causes.zipIdx.filter fun (cause, place) => ¬Mentions (explain text (causes.take place)) cause

/-- Whether a cause is news does not depend on later ones. -/
theorem news_concat (text : String) (causes : List String) (cause : String) :
    news text (causes ++ [cause]) =
      news text causes ++
        if Mentions (explain text causes) cause then [] else [(cause, causes.length)] := by
  have hbefore : ∀ entry ∈ causes.zipIdx,
      decide (¬Mentions (explain text ((causes ++ [cause]).take entry.2)) entry.1) =
        decide (¬Mentions (explain text (causes.take entry.2)) entry.1) := by
    intro entry he
    have hplace : entry.2 < causes.length := by
      simpa using List.snd_lt_of_mem_zipIdx he
    rw [List.take_append_of_le_length (Nat.le_of_lt hplace)]
  simp only [news, List.zipIdx_append, List.filter_append, List.zipIdx_singleton, Nat.zero_add]
  congr 1
  · exact List.filter_congr hbefore
  · by_cases h : Mentions (explain text causes) cause <;> simp [h]

/-- An explanation is the text with the news behind it, each after a colon. -/
theorem explain_eq_news (text : String) (causes : List String) :
    explain text causes =
      text ++ String.join ((news text causes).map fun (cause, _) => ": " ++ cause) := by
  induction causes using List.reverseRecOn with
  | nil => exact String.append_empty.symm
  | append_singleton causes cause ih =>
    rw [explain_concat, news_concat, List.map_append, String.join_append, ← String.append_assoc, ← ih]
    by_cases h : Mentions (explain text causes) cause
    · rw [addCause_of_mentions h, if_pos h]
      simp
    · rw [addCause_of_not_mentions h, if_neg h]
      simp

/-- Behind what went wrong, but for a refusal, are the text of its report and the causes behind that. -/
theorem causes_of_report {report : Report} {e : FetchError}
    (h : e ∈ [FetchError.client report, .transport report, .decode report]) :
    e.causes = report.text :: report.causes := by
  simp only [List.mem_cons, List.not_mem_nil, or_false] at h
  rcases h with rfl | rfl | rfl
  all_goals rfl

/-- An explanation begins with the text and mentions every cause. It is the text with those causes
behind it that are not mentioned by the text and the causes before, in their order, and explaining
it by the same causes again adds nothing. Of a failed fetch the wording is explained by its causes,
and that is reported. A refusal has none. Of whatever else went wrong the causes are all that the
report of it has, beginning with its text, and they are all mentioned; what could not be decoded, with
no cause behind it, is mentioned in the wording. -/
theorem explain_complete (text : String) (causes : List String) :
    (∃ more, explain text causes = text ++ more) ∧
    (∀ cause ∈ causes, ∃ front back, explain text causes = front ++ cause ++ back) ∧
    explain text causes = text ++ String.join
      ((causes.zipIdx.filter fun (cause, place) =>
        ¬Mentions (explain text (causes.take place)) cause).map fun (cause, _) => ": " ++ cause) ∧
    explain (explain text causes) causes = explain text causes ∧
    (∀ e : FetchError, e.explanation = explain e.message e.causes ∧
      (Event.fetchFailed e).details = [("error", e.explanation)]) ∧
    (∀ code body, (FetchError.status code body).explanation =
        (FetchError.status code body).message ∧
      (FetchError.status code body).message = "API error: " ++ toString code ++ " - " ++ body) ∧
    (∀ problem, (FetchError.decode ⟨problem, []⟩).explanation =
        (FetchError.decode ⟨problem, []⟩).message ∧
      (FetchError.decode ⟨problem, []⟩).message = "Invalid JSON response: " ++ problem) ∧
    ∀ report : Report,
      (FetchError.client report).explanation =
        explain ("Failed to build HTTP client: " ++ report.text) (report.text :: report.causes) ∧
      (FetchError.transport report).explanation =
        explain ("HTTP error: " ++ report.text) (report.text :: report.causes) ∧
      (FetchError.decode report).explanation =
        explain ("Invalid JSON response: " ++ report.text) (report.text :: report.causes) ∧
      ∀ e ∈ [FetchError.client report, .transport report, .decode report],
        ∀ cause ∈ report.text :: report.causes,
          ∃ front back, e.explanation = front ++ cause ++ back := by
  have hmentioned : ∀ cause ∈ causes, Mentions (explain text causes) cause :=
    fun cause h => mentions_explain text h
  refine ⟨exists_explain_eq text causes, hmentioned, ?_, explain_of_mentions hmentioned,
    fun e => ⟨rfl, rfl⟩, fun code body => ⟨rfl, rfl⟩, fun problem => ⟨?_, rfl⟩,
    fun report => ⟨rfl, rfl, rfl, fun e he cause hcause => ?_⟩⟩
  · exact explain_eq_news text causes
  · have hproblem := mentions_append_right "Invalid JSON response: " problem
    exact explain_of_mentions (List.forall_mem_singleton.mpr hproblem)
  · have hcauses : e.causes = report.text :: report.causes := causes_of_report he
    exact mentions_explain e.message (hcauses ▸ hcause)

/-- What an earlier cause says is no news, and neither is a cause without a text. -/
example : explain "HTTP error: no answer" ["no answer", "timed out", "timed", ""] =
    "HTTP error: no answer: timed out" := by decide

end SessionInventory
