import Mathlib.Data.List.Lex
import ScriptHost.Structure.Published

/-!
# The order of names

Names are compared by their UTF-8 bytes.  Texts with equal bytes are equal, so
the comparison is a strict total order on texts.
-/

namespace ScriptHost

private theorem remainingBytes_eq (bytes : ByteArray) (i : Nat)
    (collected : List UInt8) :
    ByteArray.toList.loop bytes i collected =
      collected.reverse ++ bytes.data.toList.drop i := by
  fun_induction ByteArray.toList.loop bytes i collected with
  | case1 i collected hin ih =>
      have hdrop : bytes.data.toList.drop i =
          bytes.get! i :: bytes.data.toList.drop (i + 1) := by
        rw [List.drop_eq_getElem_cons (by simpa using hin)]
        simp [ByteArray.get!, hin]
      rw [ih, hdrop]
      simp
  | case2 i collected hout =>
      have hdrop : bytes.data.toList.drop i = [] := by
        apply List.drop_eq_nil_of_le
        simpa using hout
      rw [hdrop, List.append_nil]

theorem bytes_injective :
    Function.Injective fun text : String => text.toUTF8.toList := by
  intro left right hbytes
  simp only [ByteArray.toList, remainingBytes_eq, List.reverse_nil,
    List.nil_append, List.drop_zero] at hbytes
  apply String.toByteArray_inj.mp
  rw [← String.toUTF8_eq_toByteArray, ← String.toUTF8_eq_toByteArray]
  exact ByteArray.ext (Array.toList_inj.mp hbytes)

theorem bytewiseBefore_iff {left right : String} :
    bytewiseBefore left right = true ↔
      left.toUTF8.toList < right.toUTF8.toList := by
  rw [bytewiseBefore, decide_eq_true_iff]

theorem bytewiseBefore_irrefl (name : String) :
    ¬ bytewiseBefore name name = true := by
  rw [bytewiseBefore_iff]
  exact List.lt_irrefl _

theorem bytewiseBefore_trans {left middle right : String}
    (hleft : bytewiseBefore left middle = true)
    (hright : bytewiseBefore middle right = true) :
    bytewiseBefore left right = true := by
  rw [bytewiseBefore_iff] at *
  exact List.lt_trans hleft hright

theorem bytewiseBefore_of_ne {left right : String} (hne : left ≠ right)
    (hnot : ¬ bytewiseBefore left right = true) :
    bytewiseBefore right left = true := by
  rw [bytewiseBefore_iff] at *
  rcases List.le_iff_lt_or_eq.mp (List.not_lt.mp hnot) with hlt | heq
  · exact hlt
  · exact absurd (bytes_injective heq).symm hne

end ScriptHost
