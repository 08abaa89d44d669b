import StationMesh.Config.ImpairedStore
import StationMesh.Proofs.Message.Values
import StationMesh.Mesh
import StationMesh.Proofs.Kiss.Recovery
import StationMesh.Proofs.Relay.Dedup
import StationMesh.Proofs.Relay.Replay
import StationMesh.Proofs.Channel.HandOut
import StationMesh.Proofs.Channel.CarrierSense
import StationMesh.Proofs.Station.Drain
import StationMesh.Proofs.Station.Listening
import StationMesh.Proofs.Station.Reserve
import StationMesh.Proofs.Station.Accounting
import StationMesh.Proofs.Station.Tuning
import StationMesh.Proofs.Relay.Bridging
import StationMesh.Proofs.Relay.Logging
import StationMesh.Proofs.Relay.OwnTraffic
import StationMesh.Proofs.Mesh.Flooding
import StationMesh.Proofs.Config.ImageStore
import StationMesh.Proofs.Config.Corruption
import StationMesh.Proofs.Channel.Losses
import StationMesh.Proofs.Channel.Phantoms
import StationMesh.Proofs.Relay.Propagation
import StationMesh.Proofs.Relay.Refusal
import StationMesh.Proofs.Relay.Rejection
import StationMesh.Proofs.Relay.HostFrames
import StationMesh.Proofs.Relay.Truncation
import StationMesh.Proofs.Host.Reading
import StationMesh.Proofs.Station.Handover
import StationMesh.Proofs.Channel.Pushing
import StationMesh.Proofs.Weather.Gathering
import StationMesh.Proofs.Station.Silence
import StationMesh.Proofs.Relay.Addressing
import StationMesh.Proofs.Radio.Broadcasting
import StationMesh.Proofs.History.Slots
import StationMesh.Proofs.Message.Seeking
