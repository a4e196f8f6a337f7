import RoundKey.Bytes
import RoundKey.Text.Base32
import RoundKey.Text.Base64
import RoundKey.Crypto.Ed25519
import RoundKey.Crypto.Box
import RoundKey.Pairing.Point
import RoundKey.Number.Binary64
import RoundKey.Data.Mismatch
import RoundKey.Text.Utf8
import RoundKey.Text.WhiteSpace
import RoundKey.Data.Scalar
import RoundKey.Json.Text
import RoundKey.Json.Number
import RoundKey.Json.Record
import RoundKey.Message
import RoundKey.ServerError
import RoundKey.KeyMaterial
import RoundKey.ServerIdentity
import RoundKey.Reply
import RoundKey.ClientError
import RoundKey.Event
import RoundKey.Envelope
import RoundKey.Endpoint
import RoundKey.Client
import RoundKey.Session
import RoundKey.Shared
import RoundKey.Issuer
import RoundKey.Main
import RoundKey.Proofs.Unambiguous
import RoundKey.Proofs.Crypto.Box
import RoundKey.Proofs.Data.Record
import RoundKey.Proofs.Data.Scalar
import RoundKey.Proofs.Envelope
import RoundKey.Proofs.Extraction
import RoundKey.Proofs.HonestIssuer
import RoundKey.Proofs.Handshake
import RoundKey.Proofs.Session
import RoundKey.Proofs.Shared
import RoundKey.Proofs.Config
import RoundKey.Proofs.Isolation
import RoundKey.Proofs.Secrecy
import RoundKey.Proofs.Store
import RoundKey.Proofs.Data.Content
import RoundKey.Proofs.Log
import RoundKey.Proofs.Pin
import RoundKey.Proofs.MemberOrder
import RoundKey.Proofs.ServerError
import RoundKey.Proofs.ServerIdentity
import RoundKey.Proofs.Json.Written
import RoundKey.Proofs.Json.Item
import RoundKey.Proofs.ExtractCommand
import RoundKey.Proofs.ClientError
import RoundKey.Proofs.CommandLine.Value
import RoundKey.Proofs.Address
