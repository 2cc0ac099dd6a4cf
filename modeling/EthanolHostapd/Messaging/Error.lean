import EthanolHostapd.Messaging.Fields

/-!
# Error replies

`msg_error.c`.  The servlet answers a message it does not accept with an error message, which carries
the type `MSG_ERR_TYPE` whatever the type of the message it answers.
-/

namespace Ethanol

open Wire

/-- `return_error_msg_struct`.  Its first argument, the type of the message that caused the error, is
not used. -/
def returnErrorMsgStruct (errorType : EnumMsgErrorType) (mId : Int32) : Encoded :=
  let bufLen := Int32.ofInt (4 + (ethanolVersion.chars.length + 1) + 4 + 4 + 4 + 4)
  let aux := Out.ofBytes []
  let aux := encodeInt aux EnumMsgType.msgErrType.code
  let aux := encodeInt aux mId
  let aux := encodeChar aux (some ethanolVersion)
  let aux := encodeInt aux bufLen
  ⟨bufLen, encodeInt aux errorType.code⟩

/-- The bytes of an error reply: they fill the buffer allocated for them. -/
lemma returnErrorMsgStruct_eq (errorType : EnumMsgErrorType) (mId : Int32) :
    returnErrorMsgStruct errorType mId =
      ⟨26, Out.ofBytes (headerBytes EnumMsgType.msgErrType.code mId 26 ++
        Scalar.toBytes errorType.code)⟩ := by
  simp [returnErrorMsgStruct, headerBytes, show ethanolVersion.chars.length = 5 from rfl]

/-- A receiver finds the type `MSG_ERR_TYPE` in every error reply. -/
lemma returnMessageType_error (errorType : EnumMsgErrorType) (mId : Int32) (beyond : ℕ → UInt8)
    (heap : ℕ → List UInt8) :
    returnMessageType
        (Memory.ofBytes (returnErrorMsgStruct errorType mId).out.bytes beyond heap) =
      EnumMsgType.msgErrType.code := by
  rw [returnErrorMsgStruct_eq, headerBytes]
  simp only [Out.ofBytes_bytes, List.append_assoc]
  exact (Decodes.scalar EnumMsgType.msgErrType.code _ Cursor.start
    (Memory.ofBytes_holds _ _ _ _)).1

end Ethanol
