import ScreenFlow.Main
import ScreenFlow.Proofs.Edits
import ScreenFlow.Proofs.Event.Cutting
import ScreenFlow.Proofs.Session.Arrival
import ScreenFlow.Proofs.Session.Copy
import ScreenFlow.Proofs.Session.Errors
import ScreenFlow.Proofs.Session.ErrorsUnread
import ScreenFlow.Proofs.Session.Failure
import ScreenFlow.Proofs.Session.Navigation
import ScreenFlow.Proofs.Session.Pruning
import ScreenFlow.Proofs.Session.Rechecks
import ScreenFlow.Proofs.Session.Launch
import ScreenFlow.Proofs.SharedIds
import ScreenFlow.Proofs.Command.Run
import ScreenFlow.Proofs.Text.Lines
import ScreenFlow.Proofs.Text.Takes
import ScreenFlow.Proofs.Text.Cut
import ScreenFlow.Proofs.Command.Conversation
import ScreenFlow.Proofs.Codec.Canonical
import ScreenFlow.Proofs.Codec.Reading
import ScreenFlow.Proofs.Codec.Agreement
import ScreenFlow.Proofs.Codec.TextAndValue
import ScreenFlow.Proofs.Codec.Revision
import ScreenFlow.Proofs.Codec.DocumentRevision
import ScreenFlow.Proofs.Text.Address
import ScreenFlow.Proofs.Template.Token
import ScreenFlow.Proofs.Validation
import ScreenFlow.Proofs.Template.Parts
import ScreenFlow.Proofs.Template.Settled
import ScreenFlow.Proofs.Session.Touch
import ScreenFlow.Proofs.Event.Warnings
import ScreenFlow.Proofs.Template.Openings
import ScreenFlow.Proofs.Assets.Bundle
import ScreenFlow.Proofs.Assets.Document
import ScreenFlow.Proofs.Command.View
