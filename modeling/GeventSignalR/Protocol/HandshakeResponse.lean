import GeventSignalR.Protocol.Accepted
import GeventSignalR.Protocol.JsonRoundTrip
import GeventSignalR.Python.JsonGrammar
import GeventSignalR.Python.Utf8

/-!
# The handshake response under MessagePack

`decode_handshake` reads a binary frame up to the record separator and a text frame up to
its first closing brace.

* `decodeHandshake_binary`: the binary frame is always read.
* `sameAnswer_iff`: the text frame is read as well exactly when the response has no other
  closing brace than its last character.
-/

namespace GeventSignalR

open Python.Braces

/-- What the grammar of JSON says about `json.loads`: no control characters besides
whitespace, braces that are balanced, whitespace around the value, and bytes in UTF-8. -/
structure PyJson.Grammar (json : PyJson) : Prop where
  legible : ∀ {text value}, json.loads text = .ok value →
    ∀ c ∈ text.toList, c.toNat < 0x20 → isSpace c = true
  object : ∀ {text d}, json.loads text = .ok (.dict d) → IsObjectText text.toList
  space : ∀ {text after value}, (∀ c ∈ after, isSpace c = true) →
    json.loads (String.ofList (text ++ after)) = .ok value →
    json.loads (String.ofList text) = .ok value
  bytes : ∀ {text value}, json.loads text = .ok value →
    json.loadsBytes (Python.Utf8.encode text.toList) = .ok value

namespace MessagePackHubProtocol

variable {json : PyJson}

/-- The characters of a response with its record separator. -/
def responseChars (text : String) : List Char :=
  text.toList ++ [BaseHubProtocol.recordSeparator]

/-- The separator is no byte of another character. -/
theorem separator_not_mem_encode {cs : List Char}
    (h : BaseHubProtocol.recordSeparator ∉ cs) : 0x1E ∉ Python.Utf8.encode cs := by
  intro hmem
  obtain ⟨c, hc, hbyte⟩ := List.mem_flatMap.mp hmem
  have hvalue : c.toNat = 0x1E := Python.Utf8.toNat_of_mem_encodeChar hbyte (by decide)
  apply h
  have hsame : c = BaseHubProtocol.recordSeparator := by
    rw [← Char.ofNat_toNat c, hvalue]
    rfl
  rwa [← hsame]

/-- The binary frame of a response is read, whatever the response contains. -/
theorem decodeHandshake_binary (hjson : json.Grammar) (mp : Msgpack) {text : String} {d : Dict}
    (h : json.loads text = .ok (.dict d)) :
    decodeHandshake json mp (.binary (Python.Utf8.encode (responseChars text))) =
      some (.ok (⟨d.get "error"⟩, [])) := by
  have hnot : BaseHubProtocol.recordSeparator ∉ text.toList := by
    intro hmem
    have := hjson.legible h _ hmem (by decide)
    exact absurd this (by decide)
  have hbytes : Python.Utf8.encode (responseChars text) =
      Python.Utf8.encode text.toList ++ [0x1E] := by
    simp [Python.Utf8.encode, responseChars]
    rfl
  have hidx : (Python.Utf8.encode text.toList ++ [0x1E]).idxOf 0x1E =
      (Python.Utf8.encode text.toList).length := by
    rw [List.idxOf_append_of_notMem (separator_not_mem_encode hnot)]
    simp
  have hnone : parseMessages mp [] = some (.ok []) := rfl
  simp only [decodeHandshake, decodeHandshakeBytes, hbytes, hidx]
  simp [hnone, hjson.bytes h, BaseHubProtocol.handshakeResponse, bind, Except.bind, pure, Except.pure]

/-- The text frame of a response is read by `json.loads` of its front. -/
theorem decodeHandshake_text (mp : Msgpack) {text : String} (h : IsObjectText text.toList) :
    decodeHandshake json mp (.text (String.ofList (responseChars text))) =
      some (do
        let data ← json.loads (String.ofList (upToBrace text.toList))
        return (← BaseHubProtocol.handshakeResponse data, [])) := by
  have hmem := brace_mem_of_isObjectText h
  have hlt : (responseChars text).idxOf '\x7d' < (responseChars text).length :=
    List.idxOf_lt_length_iff.mpr (by simp [responseChars, hmem])
  have hfront : (responseChars text).take ((responseChars text).idxOf '\x7d' + 1) =
      upToBrace text.toList :=
    upToBrace_append_of_mem hmem _
  simp only [decodeHandshake, decodeHandshakeText, String.toList_ofList, if_neg (not_le.mpr hlt),
    hfront]

/-- Both frames of a response give its error and no messages. -/
def SameAnswer (json : PyJson) (mp : Msgpack) (text : String) (d : Dict) : Prop :=
  decodeHandshake json mp (.binary (Python.Utf8.encode (responseChars text))) =
      some (.ok (⟨d.get "error"⟩, [])) ∧
    decodeHandshake json mp (.text (String.ofList (responseChars text))) =
      some (.ok (⟨d.get "error"⟩, []))

/-- A response that has another closing brace is not read from a text frame. -/
theorem not_sameAnswer (hjson : json.Grammar) (mp : Msgpack) {text : String} {d : Dict}
    (h : json.loads text = .ok (.dict d)) (hcount : text.toList.count '\x7d' ≠ 1) :
    ¬ SameAnswer json mp text d := by
  rintro ⟨-, htext⟩
  have hobject := hjson.object h
  rw [decodeHandshake_text mp hobject] at htext
  apply hcount
  rw [← isObjectText_upToBrace_iff hobject]
  cases hloads : json.loads (String.ofList (upToBrace text.toList)) with
  | error e =>
      rw [hloads] at htext
      cases htext
  | ok value =>
      rw [hloads] at htext
      cases value with
      | dict entries =>
          have hfront := hjson.object hloads
          rwa [String.toList_ofList] at hfront
      | _ => cases htext

/-- A response is answered alike exactly when it has no other closing brace than its
last one. -/
theorem sameAnswer_iff (hjson : json.Grammar) (mp : Msgpack) {text : String} {d : Dict}
    (h : json.loads text = .ok (.dict d)) :
    SameAnswer json mp text d ↔ text.toList.count '\x7d' = 1 := by
  constructor
  · intro hsame
    by_contra hcount
    exact not_sameAnswer hjson mp h hcount hsame
  · intro hcount
    have hobject := hjson.object h
    obtain ⟨after, hsplit, hafter⟩ := append_upToBrace hobject hcount
    have hfront : json.loads (String.ofList (upToBrace text.toList)) = .ok (.dict d) := by
      apply hjson.space hafter
      rw [← hsplit, String.ofList_toList]
      exact h
    refine ⟨decodeHandshake_binary hjson mp h, ?_⟩
    rw [decodeHandshake_text mp hobject, hfront]
    rfl

end MessagePackHubProtocol

namespace JsonText

/-- The bytes of a text are decoded to that text. -/
theorem fromUTF8?_encode (cs : List Char) :
    String.fromUTF8? ⟨(Python.Utf8.encode cs).toArray⟩ = some (String.ofList cs) := by
  have hbytes : (⟨(Python.Utf8.encode cs).toArray⟩ : ByteArray) = (String.ofList cs).toByteArray := by
    rw [String.toByteArray_ofList, List.utf8Encode]
    apply ByteArray.ext
    rw [List.data_toByteArray]
    rfl
  rw [hbytes, String.fromUTF8?, dif_pos (String.isValidUTF8 _)]
  rfl

/-- The reader of this development keeps to the grammar. -/
theorem python_grammar : python.Grammar where
  legible := by
    intro text value h
    rw [← String.ofList_toList (s := text)] at h
    exact loads_legible h
  object := by
    intro text d h
    rw [← String.ofList_toList (s := text)] at h
    exact loads_object h
  space := fun hafter h => loads_space hafter h
  bytes := by
    intro text value h
    simp only [python, fromUTF8?_encode, String.ofList_toList]
    exact h

end JsonText

namespace MessagePackHubProtocol

/-- The response without an error. -/
theorem sameAnswer_empty :
    SameAnswer JsonText.python fragment "\x7b\x7d" [] ↔ "\x7b\x7d".toList.count '\x7d' = 1 :=
  sameAnswer_iff JsonText.python_grammar fragment rfl

/-- A response whose error contains a closing brace is read from a binary frame, and
raises from a text frame. -/
theorem not_sameAnswer_brace :
    JsonText.python.Grammar ∧
      JsonText.python.loads "\x7b\"error\":\"\x7d\"\x7d" = .ok (.dict [(.str "error", .str "\x7d")]) ∧
      ¬ SameAnswer JsonText.python fragment "\x7b\"error\":\"\x7d\"\x7d"
        [(.str "error", .str "\x7d")] := by
  have hloads : JsonText.python.loads "\x7b\"error\":\"\x7d\"\x7d" =
      .ok (.dict [(.str "error", .str "\x7d")]) := by
    rfl
  exact ⟨JsonText.python_grammar, hloads,
    not_sameAnswer JsonText.python_grammar fragment hloads (by decide)⟩

end MessagePackHubProtocol
end GeventSignalR
