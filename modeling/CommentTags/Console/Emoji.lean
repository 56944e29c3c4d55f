import CommentTags.Console.EmojiNames
import CommentTags.Text.Lowercase

namespace CommentTags.Console

def codeEnd? : Text → Option (Text × Text)
  | [] => none
  | c :: s =>
    if c = ':' then some ([], s)
    else if Text.isBlank c then none
    else (codeEnd? s).map (fun (code, rest) => (c :: code, rest))

theorem length_of_codeEnd? {s code rest : Text} (h : codeEnd? s = some (code, rest)) :
    rest.length < s.length := by
  induction s generalizing code with
  | nil => simp [codeEnd?] at h
  | cons c s ih =>
    unfold codeEnd? at h
    split at h
    · simp_all
    · split at h
      · simp at h
      · rw [Option.map_eq_some_iff] at h
        obtain ⟨⟨b, r⟩, hb, he⟩ := h
        obtain ⟨-, rfl⟩ := Prod.mk.inj he
        have := ih hb
        simp only [List.length_cons]
        omega

def variants : List (Text × Char) :=
  [("-emoji".toList, '\uFE0F'), ("-text".toList, '\uFE0E')]

def emoji? (code : Text) : Option Text :=
  let (name, form) :=
    match variants.find? (fun v => v.1.isSuffixOf code) with
    | some (ending, form) => (code.take (code.length - ending.length), [form])
    | none => (code, [])
  (emojiNames.lookup (Text.lower name)).map (· ++ form)

def withEmoji : Text → Text
  | [] => []
  | c :: s =>
    match _h : (if c = ':' then codeEnd? s else none) with
    | some (code, rest) =>
      (emoji? code).getD (':' :: (code ++ [':'])) ++ withEmoji rest
    | none => c :: withEmoji s
termination_by s => s.length
decreasing_by
  · split at _h
    · have := length_of_codeEnd? _h
      simp only [List.length_cons]
      omega
    · simp at _h
  · simp

end CommentTags.Console
