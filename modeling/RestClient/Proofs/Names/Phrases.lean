import RestClient.Status

/-! # Phrases of responses

A response gives its variant a phrase: a fixed one if it is the default response, the one of the
table if the table has its code, and else one with the code itself in it.

* `isWord_phrase`: phrases are words of letters and digits, if those of the table are;
* `phraseCode_phrase_of_isAlphanumCode`: with the standard table, a phrase stands for one code of
  letters and digits. -/

namespace RestClient

/-! ### Words -/

/-- A phrase that can be a part of a name. -/
def IsWord (phrase : String) : Prop := phrase ≠ "" ∧ ∀ c ∈ phrase.toList, c.isAlphanum = true

instance (phrase : String) : Decidable (IsWord phrase) :=
  decidable_of_iff (phrase ≠ "" ∧ phrase.toList.all Char.isAlphanum = true)
    (and_congr_right fun _ => List.all_eq_true)

/-- A table of words. -/
def PhraseTable.HasWords (phrases : PhraseTable) : Prop :=
  ∀ code phrase, phrases code = some phrase → IsWord phrase

theorem isWord_phrase {phrases : PhraseTable} (h : phrases.HasWords) (response : Response) :
    IsWord (response.phrase phrases).value := by
  unfold Response.phrase
  split
  · exact (by decide : IsWord "Default")
  · split
    · rename_i phrase hphrase
      exact h _ _ hphrase
    · refine ⟨fun hnil => ?_, fun c hc => ?_⟩
      · have := congrArg String.toList hnil
        simp at this
      · simp only [Logged.value_after, Logged.value_silent, String.toList_append,
          List.mem_append, plainCode, String.toList_ofList, List.mem_filter] at hc
        have hstatus : "Status".toList.all Char.isAlphanum = true := by decide
        rcases hc with hc | ⟨-, hc⟩
        · exact List.all_eq_true.1 hstatus c hc
        · exact hc

/-- The characters of a phrase make a word that is neither the fixed one nor begins like a phrase with
a code in it. -/
def isRegularPhrase (s : List Char) : Bool :=
  !s.isEmpty && s.all Char.isAlphanum && s != ['D', 'e', 'f', 'a', 'u', 'l', 't'] &&
    !(['S', 't', 'a', 't', 'u', 's'].isPrefixOf s)

theorem isWord_ofList {s : List Char} (h : isRegularPhrase s = true) :
    IsWord (String.ofList s) ∧ String.ofList s ≠ "Default" ∧
      "Status".toList.isPrefixOf (String.ofList s).toList = false := by
  simp only [isRegularPhrase, Bool.and_eq_true, Bool.not_eq_true', List.isEmpty_eq_false_iff,
    List.all_eq_true, bne_iff_ne] at h
  obtain ⟨⟨⟨hne, hall⟩, hdefault⟩, hstatus⟩ := h
  have htext : "Default".toList = ['D', 'e', 'f', 'a', 'u', 'l', 't'] := String.toList_ofList
  have hword : "Status".toList = ['S', 't', 'a', 't', 'u', 's'] := String.toList_ofList
  refine ⟨⟨fun heq => hne ?_, ?_⟩, fun heq => hdefault ?_, ?_⟩
  · rw [← String.toList_ofList (l := s), heq, String.toList_empty]
  · rwa [String.toList_ofList]
  · rw [← String.toList_ofList (l := s), heq, htext]
  · rwa [hword, String.toList_ofList]

/-- The registered phrases are words, and none of them looks like a phrase that is not registered. -/
theorem isWord_of_mem_registeredPhrases :
    ∀ entry ∈ registeredPhrases, IsWord entry.2 ∧ entry.2 ≠ "Default" ∧
      "Status".toList.isPrefixOf entry.2.toList = false := by
  -- Computing with the characters of a literal is much faster than decoding it.
  unfold registeredPhrases
  repeat refine List.forall_mem_cons.2 ⟨isWord_ofList (by decide), ?_⟩
  exact List.forall_mem_nil _

theorem mem_registeredPhrases_of_standardPhrase {code phrase : String}
    (h : standardPhrase code = some phrase) : (code, phrase) ∈ registeredPhrases := by
  obtain ⟨before, behind, hentry, -⟩ := List.lookup_eq_some_iff.1 h
  rw [hentry]
  exact List.mem_append_right _ List.mem_cons_self

theorem hasWords_standardPhrase : PhraseTable.HasWords standardPhrase := fun _ _ h =>
  (isWord_of_mem_registeredPhrases _ (mem_registeredPhrases_of_standardPhrase h)).1

/-! ### Codes of phrases -/

theorem isDefault_iff {response : Response} :
    response.isDefault = true ↔ response.code = "default" := beq_iff_eq

/-- A code that is a number or stands for all others. -/
def Response.HasPlainCode (response : Response) : Prop :=
  response.isDefault = true ∨ isNumericCode response.code = true

instance (response : Response) : Decidable response.HasPlainCode :=
  inferInstanceAs (Decidable (response.isDefault = true ∨ isNumericCode response.code = true))

/-- The code that a phrase stands for. -/
def phraseCode (phrase : String) : String :=
  if phrase = "Default" then "default"
  else
    match registeredPhrases.find? fun entry => entry.2 == phrase with
    | some entry => entry.1
    | none => String.ofList (phrase.toList.drop "Status".toList.length)

theorem find?_registeredPhrases :
    ∀ entry ∈ registeredPhrases,
      registeredPhrases.find? (fun entry' => entry'.2 == entry.2) = some entry := by
  decide

/-- A code of ASCII letters and digits. -/
def IsAlphanumCode (code : String) : Prop := ∀ c ∈ code.toList, c.isAlphanum = true

instance (code : String) : Decidable (IsAlphanumCode code) :=
  decidable_of_iff (code.toList.all Char.isAlphanum = true) List.all_eq_true

theorem Response.HasPlainCode.isAlphanumCode {response : Response} (h : response.HasPlainCode) :
    IsAlphanumCode response.code := by
  rcases h with hdefault | hnumeric
  · rw [isDefault_iff.1 hdefault]
    decide
  · intro c hc
    rw [isNumericCode, Bool.and_eq_true] at hnumeric
    have hdigit := List.all_eq_true.1 hnumeric.2 c hc
    rw [Char.isAlphanum, hdigit, Bool.or_true]

theorem plainCode_of_isAlphanumCode {code : String} (h : IsAlphanumCode code) :
    plainCode code = code := by
  have hfilter : code.toList.filter Char.isAlphanum = code.toList := List.filter_eq_self.2 h
  rw [plainCode, hfilter, String.ofList_toList]

/-- **A code of letters and digits can be told from its phrase.** -/
theorem phraseCode_phrase_of_isAlphanumCode {response : Response}
    (h : IsAlphanumCode response.code) :
    phraseCode (response.phrase standardPhrase).value = response.code := by
  unfold Response.phrase
  split
  · rename_i hdefault
    rw [isDefault_iff.1 hdefault]
    rfl
  · split
    · rename_i phrase hphrase
      have hmem := mem_registeredPhrases_of_standardPhrase hphrase
      have hne := (isWord_of_mem_registeredPhrases _ hmem).2.1
      rw [Logged.value_silent, phraseCode, if_neg hne, find?_registeredPhrases _ hmem]
    · -- A code without a phrase is found behind a word with which no registered phrase begins.
      have hnone : registeredPhrases.find?
          (fun entry => entry.2 == "Status" ++ response.code) = none := by
        refine List.find?_eq_none.2 fun entry hentry heq => ?_
        have hprefix := (isWord_of_mem_registeredPhrases entry hentry).2.2
        rw [beq_iff_eq.1 heq, String.toList_append,
          List.isPrefixOf_iff_prefix.2 (List.prefix_append _ _)] at hprefix
        exact Bool.noConfusion hprefix
      have hne : "Status" ++ response.code ≠ "Default" := by
        intro heq
        have hhead := congrArg (fun s => s.toList.head?) heq
        simp at hhead
      rw [Logged.value_after, Logged.value_silent, plainCode_of_isAlphanumCode h, phraseCode,
        if_neg hne, hnone]
      simp

theorem phraseCode_phrase {response : Response} (h : response.HasPlainCode) :
    phraseCode (response.phrase standardPhrase).value = response.code :=
  phraseCode_phrase_of_isAlphanumCode h.isAlphanumCode

end RestClient
