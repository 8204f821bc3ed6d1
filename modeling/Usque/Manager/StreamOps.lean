import Usque.Manager.Stream

namespace Usque

inductive StreamOp (c : SocketStreamHandle) : SocketStreamHandle.Notified → Prop where
  | read (n : Nat) : StreamOp c (c.pollRead n).2
  | write (buf : List UInt8) : StreamOp c (c.pollWrite buf).2
  | flush : StreamOp c c.pollFlush.2
  | shutdown : StreamOp c c.pollShutdown.2
  | drop : StreamOp c c.drop

namespace SocketStreamHandle

def SameLink (c c' : SocketStreamHandle) : Prop :=
  c'.handle = c.handle ∧ c'.socketNotifier = c.socketNotifier

theorem notify_link (c : SocketStreamHandle) (kind : SocketEventKind) :
    c.SameLink (c.notify kind).1 := by
  simp only [notify]
  split
  · exact ⟨rfl, rfl⟩
  · cases kind <;> exact ⟨rfl, rfl⟩

theorem readBytes_link (c : SocketStreamHandle) (n : Nat) : c.SameLink (c.readBytes n).2.1 := by
  simp only [readBytes]
  split
  · exact notify_link _ _
  · exact ⟨rfl, rfl⟩

theorem writeBytes_link (c : SocketStreamHandle) (buf : List UInt8) :
    c.SameLink (c.writeBytes buf).2.1 := by
  simp only [writeBytes]
  split
  · exact notify_link _ _
  · exact ⟨rfl, rfl⟩

theorem pollRead_link (c : SocketStreamHandle) (n : Nat) : c.SameLink (c.pollRead n).2.1 := by
  simp only [pollRead]
  split
  · split <;> exact ⟨rfl, rfl⟩
  · exact readBytes_link _ _

theorem pollWrite_link (c : SocketStreamHandle) (buf : List UInt8) :
    c.SameLink (c.pollWrite buf).2.1 := by
  simp only [pollWrite]
  split
  · exact ⟨rfl, rfl⟩
  · split
    · exact ⟨rfl, rfl⟩
    · exact writeBytes_link _ _

theorem pollFlush_link (c : SocketStreamHandle) : c.SameLink c.pollFlush.2.1 := by
  simp only [pollFlush]
  split
  · exact ⟨rfl, rfl⟩
  · split <;> exact notify_link c .writeReady

theorem pollShutdown_link (c : SocketStreamHandle) : c.SameLink c.pollShutdown.2.1 := by
  have h := c.pollFlush_link
  simp only [pollShutdown]
  split
  · next hp => rw [hp] at h; exact h
  · next c' events hp =>
      rw [hp] at h
      split
      · exact h
      · have hn := notify_link { c' with writeShutdown := true } .writeReady
        exact ⟨hn.1.trans h.1, hn.2.trans h.2⟩

theorem drop_link (c : SocketStreamHandle) : c.SameLink c.drop.1 :=
  notify_link { c with socketDropped := true, readClosed := true, writeClosed := true
                       recvWaker := c.recvWaker.wake, sendWaker := c.sendWaker.wake } .closed

end SocketStreamHandle

theorem StreamOp.link {c : SocketStreamHandle} {n : SocketStreamHandle.Notified}
    (h : StreamOp c n) : c.SameLink n.1 := by
  cases h with
  | read n => exact c.pollRead_link n
  | write buf => exact c.pollWrite_link buf
  | flush => exact c.pollFlush_link
  | shutdown => exact c.pollShutdown_link
  | drop => exact c.drop_link

end Usque
