import TagTooltips.Server.State

/-! A session is a run of messages. For each message a client sees the answer and the entries in its
log window. -/

namespace TagTooltips

structure Exchange where
  reply : Reply
  log : List LogMessage

namespace Server

def exchange (read : Reader) (m : Message) (s : Server) : Server × Exchange :=
  let received := s.receive read m
  (received.value.1, ⟨received.value.2, received.log⟩)

def session (read : Reader) : List Message → Server → Server × List Exchange
  | [], s => (s, [])
  | m :: ms, s =>
    let (s, first) := s.exchange read m
    let (s, rest) := s.session read ms
    (s, first :: rest)

end Server

end TagTooltips
