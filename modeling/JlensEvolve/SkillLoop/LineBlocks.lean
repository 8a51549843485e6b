import JlensEvolve.SkillLoop.BlockRewrite

/-!
Which lines a line-block edit leaves as they were, in the numbering of the
parser. The lines in front of the range, as `splitlines` counts them, end too
early where a form feed or another separator stands in one of them; what they
leave out in front of the range is lost unless the replacement brings it back.
-/

namespace JlensEvolve.SkillLoop.BlockRewrite

open Library Contracts Evidence SearchReplace SymbolTree TextLines

theorem return_notMem_universalNewlines (text : List Char) : '\r' ∉ universalNewlines text := by
  induction text with
  | nil => exact List.not_mem_nil
  | cons c rest ih =>
    rw [universalNewlines]
    split
    · split
      · exact ih
      · rw [List.mem_cons, not_or]
        exact ⟨by decide, ih⟩
    · rename_i hc
      rw [List.mem_cons, not_or]
      exact ⟨fun heq => hc heq.symm, ih⟩

section Edited

variable {rewrite : LineBlockRewrite} {before : String} {sourceLine : List Char}

end Edited

section Accepted

variable {parser : Parser} {checkout : Checkout} {answer : Answer} {rewrite : LineBlockRewrite}
  {attempt : SearchReplace.StudentAttempt}

theorem readSource_ok {file before : String} {module : Body}
    (h : readSource parser checkout file = .ok (before, module)) :
    '\r' ∉ before.toList ∧ parser.parse before = .ok module := by
  simp only [readSource, except_bind_ok_iff] at h
  obtain ⟨text, -, read, hparse, hpure⟩ := h
  cases hpure
  refine ⟨?_, hparse⟩
  rw [String.toList_ofList]
  exact return_notMem_universalNewlines _

end Accepted

end JlensEvolve.SkillLoop.BlockRewrite
